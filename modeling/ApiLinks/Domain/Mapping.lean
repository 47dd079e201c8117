import ApiLinks.Domain.Run
import ApiLinks.Text.Basic

/-!
# The mapping of domains

Before anything else a domain is mapped: upper case to lower case, compatibility forms to the plain ones,
and what is invisible to nothing.
-/

namespace ApiLinks.Domain

/-- What a run of characters is mapped to. -/
inductive Target where
  /-- Every character of the run to this text. -/
  | text (t : Text)
  /-- Every `step`-th character, from the first on, to the one as far behind
  `first`; the others to themselves. -/
  | shifted (step first : Nat)
  deriving Repr

/-- The mapping: how many characters are passed over, how many are mapped, and the distance
between them. Where this is zero, the length of their text and the text follow, and elsewhere what
the first of them is mapped to. -/
def mappingLines : List String :=
  [
    "41 1A 1 61 45 1 0 1 20 7 1 0 2 20 308 1 1 0 1 61 2 1 0 0 1 1 0 2 20 304 2 2 1 32 0 1 0 2 20 301 0 1 0 1 3BC 2 1",
    "0 2 20 327 0 1 0 1 31 0 1 0 1 6F 1 1 0 3 31 2044 34 0 1 0 3 31 2044 32 0 1 0 3 33 2044 34 1 17 1 E0 1 7 1 F8 21",
    "18 2 101 1 1 0 2 69 307 1 2 0 2 69 6A 0 2 2 135 2 3 2 13A 1 2 0 2 6C B7 0 4 2 142 1 1 0 2 2BC 6E 0 17 2 14B 1 1",
    "0 1 FF 0 3 2 17A 1 1 0 1 73 1 1 0 1 253 0 2 2 183 1 1 0 1 254 0 1 0 1 188 1 2 1 256 0 1 0 1 18C 2 1 0 1 1DD 0 1",
    "0 1 259 0 1 0 1 25B 0 1 0 1 192 1 1 0 1 260 0 1 0 1 263 1 1 0 1 269 0 1 0 1 268 0 1 0 1 199 3 1 0 1 26F 0 1 0 1",
    "272 1 1 0 1 275 0 3 2 1A1 1 1 0 1 280 0 1 0 1 1A8 1 1 0 1 283 2 1 0 1 1AD 1 1 0 1 288 0 1 0 1 1B0 1 2 1 28A 0 2",
    "2 1B4 1 1 0 1 292 0 1 0 1 1B9 3 1 0 1 1BD 7 3 0 2 64 17E 0 3 0 2 6C 6A 0 3 0 2 6E 6A 0 8 2 1CE 2 9 2 1DF 2 3 0 2",
    "64 7A 0 1 0 1 1F5 1 1 0 1 195 0 1 0 1 1BF 0 14 2 1F9 1 1 0 1 19E 1 9 2 223 7 1 0 1 2C65 0 1 0 1 23C 1 1 0 1 19A",
    "0 1 0 1 2C66 2 1 0 1 242 1 1 0 1 180 0 1 0 1 289 0 1 0 1 28C 0 5 2 247 61 1 0 1 68 0 1 0 1 266 0 1 0 1 6A 0 1 0",
    "1 72 0 1 0 1 279 0 1 0 1 27B 0 1 0 1 281 0 1 0 1 77 0 1 0 1 79 1F 1 0 2 20 306 0 1 0 2 20 307 0 1 0 2 20 30A 0 1",
    "0 2 20 328 0 1 0 2 20 303 0 1 0 2 20 30B 2 1 0 1 263 0 1 0 1 6C 0 1 0 1 73 0 1 0 1 78 0 1 0 1 295 5B 2 1 300 1 1",
    "0 1 313 0 1 0 2 308 301 0 1 0 1 3B9 9 1 0 0 20 2 2 371 1 1 0 1 2B9 1 1 0 1 377 3 1 0 2 20 3B9 3 1 0 1 3B 0 1 0 1",
    "3F3 4 1 0 2 20 301 0 1 0 3 20 308 301 0 1 0 1 3AC 0 1 0 1 B7 0 3 1 3AD 1 1 0 1 3CC 1 2 1 3CD 1 11 1 3B1 1 9 1",
    "3C3 23 1 0 1 3D7 0 1 0 1 3B2 0 1 0 1 3B8 0 1 0 1 3C5 0 1 0 1 3CD 0 1 0 1 3CB 0 1 0 1 3C6 0 1 0 1 3C0 1 C 2 3D9 1",
    "1 0 1 3BA 0 1 0 1 3C1 0 1 0 1 3C3 1 1 0 1 3B8 0 1 0 1 3B5 1 1 0 1 3F8 1 1 0 1 3C3 0 1 0 1 3FB 2 3 1 37B 0 10 1",
    "450 0 20 1 430 30 11 2 461 9 1B 2 48B 1 1 0 1 4CF 0 7 2 4C2 2 30 2 4D1 2 26 1 561 30 1 0 2 565 582 ED 1 0 2 627",
    "674 0 1 0 2 648 674 0 1 0 2 6C7 674 0 1 0 2 64A 674 2DF 1 0 2 915 93C 0 1 0 2 916 93C 0 1 0 2 917 93C 0 1 0 2",
    "91C 93C 0 1 0 2 921 93C 0 1 0 2 922 93C 0 1 0 2 92B 93C 0 1 0 2 92F 93C 7C 1 0 2 9A1 9BC 0 1 0 2 9A2 9BC 1 1 0 2",
    "9AF 9BC 53 1 0 2 A32 A3C 2 1 0 2 A38 A3C 22 1 0 2 A16 A3C 0 1 0 2 A17 A3C 0 1 0 2 A1C A3C 2 1 0 2 A2B A3C FD 1 0",
    "2 B21 B3C 0 1 0 2 B22 B3C 2D5 1 0 2 E4D E32 7F 1 0 2 ECD EB2 28 1 0 2 EAB E99 0 1 0 2 EAB EA1 2E 1 0 1 F0B 36 1",
    "0 2 F42 FB7 9 1 0 2 F4C FB7 4 1 0 2 F51 FB7 4 1 0 2 F56 FB7 4 1 0 2 F5B FB7 C 1 0 2 F40 FB5 9 1 0 2 F71 F72 1 1",
    "0 2 F71 F74 0 1 0 2 FB2 F80 0 1 0 3 FB2 F71 F80 0 1 0 2 FB3 F80 0 1 0 3 FB3 F71 F80 7 1 0 2 F71 F80 11 1 0 2 F92",
    "FB7 9 1 0 2 F9C FB7 4 1 0 2 FA1 FB7 4 1 0 2 FA6 FB7 4 1 0 2 FAB FB7 C 1 0 2 F90 FB5 E6 26 1 2D00 1 1 0 1 2D27 5",
    "1 0 1 2D2D 2E 1 0 1 10DC 62 2 0 0 297 6 1 13F0 3B6 2 0 0 55 5 0 0 470 1 0 1 432 0 1 0 1 434 0 1 0 1 43E 0 2 1",
    "441 0 1 0 1 442 0 1 0 1 44A 0 1 0 1 463 0 1 0 1 A64B 7 2B 1 10D0 2 3 1 10FD 6C 1 0 1 61 0 1 0 1 E6 0 2 2 62 0 1",
    "0 1 65 0 1 0 1 1DD 0 8 1 67 1 1 0 1 6F 0 1 0 1 223 0 1 0 1 70 0 1 0 1 72 0 2 1 74 0 1 0 1 77 0 1 0 1 61 0 2 1",
    "250 0 1 0 1 1D02 0 1 0 1 62 0 2 1 64 0 1 0 1 259 0 2 1 25B 0 1 0 1 67 1 1 0 1 6B 0 1 0 1 6D 0 1 0 1 14B 0 1 0 1",
    "6F 0 1 0 1 254 0 2 1 1D16 0 1 0 1 70 0 2 1 74 0 1 0 1 1D1D 0 1 0 1 26F 0 1 0 1 76 0 1 0 1 1D25 0 3 1 3B2 0 2 1",
    "3C6 0 1 0 1 69 0 1 0 1 72 0 2 1 75 0 2 1 3B2 0 1 0 1 3C1 0 2 1 3C6 D 1 0 1 43D 22 1 0 1 252 0 1 0 1 63 0 1 0 1",
    "255 0 1 0 1 F0 0 1 0 1 25C 0 1 0 1 66 0 1 0 1 25F 0 1 0 1 261 0 1 0 1 265 0 3 1 268 0 1 0 1 1D7B 0 1 0 1 29D 0 1",
    "0 1 26D 0 1 0 1 1D85 0 1 0 1 29F 0 1 0 1 271 0 1 0 1 270 0 4 1 272 0 1 0 1 278 0 2 1 282 0 1 0 1 1AB 0 2 1 289 0",
    "1 0 1 1D1C 0 2 1 28B 0 1 0 1 7A 0 3 1 290 0 1 0 1 3B8 40 4B 2 1E01 5 1 0 2 61 2BE 0 1 0 1 1E61 2 1 0 1 DF 1 30 2",
    "1EA1 9 8 1 1F00 8 6 1 1F10 A 8 1 1F20 8 8 1 1F30 8 6 1 1F40 B 4 2 1F51 8 8 1 1F60 1 1 0 1 3AC 1 1 0 1 3AD 1 1 0",
    "1 3AE 1 1 0 1 3AF 1 1 0 1 3CC 1 1 0 1 3CD 1 1 0 1 3CE 2 1 0 2 1F00 3B9 0 1 0 2 1F01 3B9 0 1 0 2 1F02 3B9 0 1 0 2",
    "1F03 3B9 0 1 0 2 1F04 3B9 0 1 0 2 1F05 3B9 0 1 0 2 1F06 3B9 0 1 0 2 1F07 3B9 0 1 0 2 1F00 3B9 0 1 0 2 1F01 3B9 0",
    "1 0 2 1F02 3B9 0 1 0 2 1F03 3B9 0 1 0 2 1F04 3B9 0 1 0 2 1F05 3B9 0 1 0 2 1F06 3B9 0 1 0 2 1F07 3B9 0 1 0 2 1F20",
    "3B9 0 1 0 2 1F21 3B9 0 1 0 2 1F22 3B9 0 1 0 2 1F23 3B9 0 1 0 2 1F24 3B9 0 1 0 2 1F25 3B9 0 1 0 2 1F26 3B9 0 1 0",
    "2 1F27 3B9 0 1 0 2 1F20 3B9 0 1 0 2 1F21 3B9 0 1 0 2 1F22 3B9 0 1 0 2 1F23 3B9 0 1 0 2 1F24 3B9 0 1 0 2 1F25 3B9",
    "0 1 0 2 1F26 3B9 0 1 0 2 1F27 3B9 0 1 0 2 1F60 3B9 0 1 0 2 1F61 3B9 0 1 0 2 1F62 3B9 0 1 0 2 1F63 3B9 0 1 0 2",
    "1F64 3B9 0 1 0 2 1F65 3B9 0 1 0 2 1F66 3B9 0 1 0 2 1F67 3B9 0 1 0 2 1F60 3B9 0 1 0 2 1F61 3B9 0 1 0 2 1F62 3B9 0",
    "1 0 2 1F63 3B9 0 1 0 2 1F64 3B9 0 1 0 2 1F65 3B9 0 1 0 2 1F66 3B9 0 1 0 2 1F67 3B9 2 1 0 2 1F70 3B9 0 1 0 2 3B1",
    "3B9 0 1 0 2 3AC 3B9 2 1 0 2 1FB6 3B9 0 2 1 1FB0 0 1 0 1 1F70 0 1 0 1 3AC 0 1 0 2 3B1 3B9 0 1 0 2 20 313 0 1 0 1",
    "3B9 0 1 0 2 20 313 0 1 0 2 20 342 0 1 0 3 20 308 342 0 1 0 2 1F74 3B9 0 1 0 2 3B7 3B9 0 1 0 2 3AE 3B9 2 1 0 2",
    "1FC6 3B9 0 1 0 1 1F72 0 1 0 1 3AD 0 1 0 1 1F74 0 1 0 1 3AE 0 1 0 2 3B7 3B9 0 1 0 3 20 313 300 0 1 0 3 20 313 301",
    "0 1 0 3 20 313 342 3 1 0 1 390 4 2 1 1FD0 0 1 0 1 1F76 0 1 0 1 3AF 1 1 0 3 20 314 300 0 1 0 3 20 314 301 0 1 0 3",
    "20 314 342 3 1 0 1 3B0 4 2 1 1FE0 0 1 0 1 1F7A 0 1 0 1 3CD 0 1 0 1 1FE5 0 1 0 3 20 308 300 0 1 0 3 20 308 301 0",
    "1 0 1 60 2 1 0 2 1F7C 3B9 0 1 0 2 3C9 3B9 0 1 0 2 3CE 3B9 2 1 0 2 1FF6 3B9 0 1 0 1 1F78 0 1 0 1 3CC 0 1 0 1 1F7C",
    "0 1 0 1 3CE 0 1 0 2 3C9 3B9 0 1 0 2 20 301 0 1 0 2 20 314 1 B 0 1 20 0 1 0 0 5 1 0 1 2010 5 1 0 2 20 333 17 1 0",
    "1 20 3 1 0 2 2032 2032 0 1 0 3 2032 2032 2032 1 1 0 2 2035 2035 0 1 0 3 2035 2035 2035 4 1 0 2 21 21 1 1 0 2 20",
    "305 8 1 0 2 3F 3F 0 1 0 2 3F 21 0 1 0 2 21 3F D 1 0 4 2032 2032 2032 2032 7 1 0 1 20 0 5 0 0 5 6 0 0 0 1 0 1 30",
    "0 1 0 1 69 2 6 1 34 0 1 0 1 2B 0 1 0 1 2212 0 1 0 1 3D 0 2 1 28 0 1 0 1 6E 0 A 1 30 0 1 0 1 2B 0 1 0 1 2212 0 1",
    "0 1 3D 0 2 1 28 1 1 0 1 61 0 1 0 1 65 0 1 0 1 6F 0 1 0 1 78 0 1 0 1 259 0 1 0 1 68 0 4 1 6B 0 1 0 1 70 0 2 1 73",
    "B 1 0 2 72 73 57 1 0 3 61 2F 63 0 1 0 3 61 2F 73 0 1 0 1 63 0 1 0 2 B0 63 1 1 0 3 63 2F 6F 0 1 0 3 63 2F 75 0 1",
    "0 1 25B 1 1 0 2 B0 66 0 2 1 67 0 3 0 1 68 0 1 0 1 127 0 2 0 1 69 0 2 0 1 6C 1 1 0 1 6E 0 1 0 2 6E 6F 2 3 1 70 0",
    "2 0 1 72 2 1 0 2 73 6D 0 1 0 3 74 65 6C 0 1 0 2 74 6D 1 1 0 1 7A 1 1 0 1 3C9 1 1 0 1 7A 1 1 0 1 6B 0 1 0 1 E5 0",
    "2 1 62 1 2 0 1 65 0 1 0 1 66 0 1 0 1 214E 0 1 0 1 6D 0 1 0 1 6F 0 4 1 5D0 0 1 0 1 69 1 1 0 3 66 61 78 0 1 0 1",
    "3C0 0 2 0 1 3B3 0 1 0 1 3C0 0 1 0 1 2211 4 2 0 1 64 0 1 0 1 65 0 2 1 69 6 1 0 3 31 2044 37 0 1 0 3 31 2044 39 0",
    "1 0 4 31 2044 31 30 0 1 0 3 31 2044 33 0 1 0 3 32 2044 33 0 1 0 3 31 2044 35 0 1 0 3 32 2044 35 0 1 0 3 33 2044",
    "35 0 1 0 3 34 2044 35 0 1 0 3 31 2044 36 0 1 0 3 35 2044 36 0 1 0 3 31 2044 38 0 1 0 3 33 2044 38 0 1 0 3 35",
    "2044 38 0 1 0 3 37 2044 38 0 1 0 2 31 2044 0 1 0 1 69 0 1 0 2 69 69 0 1 0 3 69 69 69 0 1 0 2 69 76 0 1 0 1 76 0",
    "1 0 2 76 69 0 1 0 3 76 69 69 0 1 0 4 76 69 69 69 0 1 0 2 69 78 0 1 0 1 78 0 1 0 2 78 69 0 1 0 3 78 69 69 0 1 0 1",
    "6C 0 2 1 63 0 1 0 1 6D 0 1 0 1 69 0 1 0 2 69 69 0 1 0 3 69 69 69 0 1 0 2 69 76 0 1 0 1 76 0 1 0 2 76 69 0 1 0 3",
    "76 69 69 0 1 0 4 76 69 69 69 0 1 0 2 69 78 0 1 0 1 78 0 1 0 2 78 69 0 1 0 3 78 69 69 0 1 0 1 6C 0 2 1 63 0 1 0 1",
    "6D 3 1 0 1 2184 5 1 0 3 30 2044 33 A2 1 0 2 222B 222B 0 1 0 3 222B 222B 222B 1 1 0 2 222E 222E 0 1 0 3 222E 222E",
    "222E F8 2 1 3008 135 9 1 31 0 1 0 2 31 30 0 1 0 2 31 31 0 1 0 2 31 32 0 1 0 2 31 33 0 1 0 2 31 34 0 1 0 2 31 35",
    "0 1 0 2 31 36 0 1 0 2 31 37 0 1 0 2 31 38 0 1 0 2 31 39 0 1 0 2 32 30 0 1 0 3 28 31 29 0 1 0 3 28 32 29 0 1 0 3",
    "28 33 29 0 1 0 3 28 34 29 0 1 0 3 28 35 29 0 1 0 3 28 36 29 0 1 0 3 28 37 29 0 1 0 3 28 38 29 0 1 0 3 28 39 29 0",
    "1 0 4 28 31 30 29 0 1 0 4 28 31 31 29 0 1 0 4 28 31 32 29 0 1 0 4 28 31 33 29 0 1 0 4 28 31 34 29 0 1 0 4 28 31",
    "35 29 0 1 0 4 28 31 36 29 0 1 0 4 28 31 37 29 0 1 0 4 28 31 38 29 0 1 0 4 28 31 39 29 0 1 0 4 28 32 30 29 14 1 0",
    "3 28 61 29 0 1 0 3 28 62 29 0 1 0 3 28 63 29 0 1 0 3 28 64 29 0 1 0 3 28 65 29 0 1 0 3 28 66 29 0 1 0 3 28 67 29",
    "0 1 0 3 28 68 29 0 1 0 3 28 69 29 0 1 0 3 28 6A 29 0 1 0 3 28 6B 29 0 1 0 3 28 6C 29 0 1 0 3 28 6D 29 0 1 0 3 28",
    "6E 29 0 1 0 3 28 6F 29 0 1 0 3 28 70 29 0 1 0 3 28 71 29 0 1 0 3 28 72 29 0 1 0 3 28 73 29 0 1 0 3 28 74 29 0 1",
    "0 3 28 75 29 0 1 0 3 28 76 29 0 1 0 3 28 77 29 0 1 0 3 28 78 29 0 1 0 3 28 79 29 0 1 0 3 28 7A 29 0 1A 1 61 0 1A",
    "1 61 0 1 0 1 30 521 1 0 4 222B 222B 222B 222B 67 1 0 3 3A 3A 3D 0 1 0 2 3D 3D 0 1 0 3 3D 3D 3D 65 1 0 2 2ADD 338",
    "123 30 1 2C30 30 1 0 1 2C61 1 1 0 1 26B 0 1 0 1 1D7D 0 1 0 1 27D 2 3 2 2C68 1 1 0 1 251 0 1 0 1 271 0 1 0 1 250",
    "0 1 0 1 252 1 1 0 1 2C73 2 1 0 1 2C76 6 1 0 1 6A 0 1 0 1 76 0 2 1 23F 0 32 2 2C81 8 2 2 2CEC 4 1 0 1 2CF3 7C 1 0",
    "1 2D61 12F 1 0 1 6BCD 53 1 0 1 9F9F C 1 0 1 4E00 0 1 0 1 4E28 0 1 0 1 4E36 0 1 0 1 4E3F 0 1 0 1 4E59 0 1 0 1",
    "4E85 0 1 0 1 4E8C 0 1 0 1 4EA0 0 1 0 1 4EBA 0 1 0 1 513F 0 1 0 1 5165 0 1 0 1 516B 0 1 0 1 5182 0 1 0 1 5196 0 1",
    "0 1 51AB 0 1 0 1 51E0 0 1 0 1 51F5 0 1 0 1 5200 0 1 0 1 529B 0 1 0 1 52F9 0 1 0 1 5315 0 1 0 1 531A 0 1 0 1 5338",
    "0 1 0 1 5341 0 1 0 1 535C 0 1 0 1 5369 0 1 0 1 5382 0 1 0 1 53B6 0 1 0 1 53C8 0 1 0 1 53E3 0 1 0 1 56D7 0 1 0 1",
    "571F 0 1 0 1 58EB 0 1 0 1 5902 0 1 0 1 590A 0 1 0 1 5915 0 1 0 1 5927 0 1 0 1 5973 0 1 0 1 5B50 0 1 0 1 5B80 0 1",
    "0 1 5BF8 0 1 0 1 5C0F 0 1 0 1 5C22 0 1 0 1 5C38 0 1 0 1 5C6E 0 1 0 1 5C71 0 1 0 1 5DDB 0 1 0 1 5DE5 0 1 0 1 5DF1",
    "0 1 0 1 5DFE 0 1 0 1 5E72 0 1 0 1 5E7A 0 1 0 1 5E7F 0 1 0 1 5EF4 0 1 0 1 5EFE 0 1 0 1 5F0B 0 1 0 1 5F13 0 1 0 1",
    "5F50 0 1 0 1 5F61 0 1 0 1 5F73 0 1 0 1 5FC3 0 1 0 1 6208 0 1 0 1 6236 0 1 0 1 624B 0 1 0 1 652F 0 1 0 1 6534 0 1",
    "0 1 6587 0 1 0 1 6597 0 1 0 1 65A4 0 1 0 1 65B9 0 1 0 1 65E0 0 1 0 1 65E5 0 1 0 1 66F0 0 1 0 1 6708 0 1 0 1 6728",
    "0 1 0 1 6B20 0 1 0 1 6B62 0 1 0 1 6B79 0 1 0 1 6BB3 0 1 0 1 6BCB 0 1 0 1 6BD4 0 1 0 1 6BDB 0 1 0 1 6C0F 0 1 0 1",
    "6C14 0 1 0 1 6C34 0 1 0 1 706B 0 1 0 1 722A 0 1 0 1 7236 0 1 0 1 723B 0 1 0 1 723F 0 1 0 1 7247 0 1 0 1 7259 0 1",
    "0 1 725B 0 1 0 1 72AC 0 1 0 1 7384 0 1 0 1 7389 0 1 0 1 74DC 0 1 0 1 74E6 0 1 0 1 7518 0 1 0 1 751F 0 1 0 1 7528",
    "0 1 0 1 7530 0 1 0 1 758B 0 1 0 1 7592 0 1 0 1 7676 0 1 0 1 767D 0 1 0 1 76AE 0 1 0 1 76BF 0 1 0 1 76EE 0 1 0 1",
    "77DB 0 1 0 1 77E2 0 1 0 1 77F3 0 1 0 1 793A 0 1 0 1 79B8 0 1 0 1 79BE 0 1 0 1 7A74 0 1 0 1 7ACB 0 1 0 1 7AF9 0 1",
    "0 1 7C73 0 1 0 1 7CF8 0 1 0 1 7F36 0 1 0 1 7F51 0 1 0 1 7F8A 0 1 0 1 7FBD 0 1 0 1 8001 0 1 0 1 800C 0 1 0 1 8012",
    "0 1 0 1 8033 0 1 0 1 807F 0 1 0 1 8089 0 1 0 1 81E3 0 1 0 1 81EA 0 1 0 1 81F3 0 1 0 1 81FC 0 1 0 1 820C 0 1 0 1",
    "821B 0 1 0 1 821F 0 1 0 1 826E 0 1 0 1 8272 0 1 0 1 8278 0 1 0 1 864D 0 1 0 1 866B 0 1 0 1 8840 0 1 0 1 884C 0 1",
    "0 1 8863 0 1 0 1 897E 0 1 0 1 898B 0 1 0 1 89D2 0 1 0 1 8A00 0 1 0 1 8C37 0 1 0 1 8C46 0 1 0 1 8C55 0 1 0 1 8C78",
    "0 1 0 1 8C9D 0 1 0 1 8D64 0 1 0 1 8D70 0 1 0 1 8DB3 0 1 0 1 8EAB 0 1 0 1 8ECA 0 1 0 1 8F9B 0 1 0 1 8FB0 0 1 0 1",
    "8FB5 0 1 0 1 9091 0 1 0 1 9149 0 1 0 1 91C6 0 1 0 1 91CC 0 1 0 1 91D1 0 1 0 1 9577 0 1 0 1 9580 0 1 0 1 961C 0 1",
    "0 1 96B6 0 1 0 1 96B9 0 1 0 1 96E8 0 1 0 1 9751 0 1 0 1 975E 0 1 0 1 9762 0 1 0 1 9769 0 1 0 1 97CB 0 1 0 1 97ED",
    "0 1 0 1 97F3 0 1 0 1 9801 0 1 0 1 98A8 0 1 0 1 98DB 0 1 0 1 98DF 0 1 0 1 9996 0 1 0 1 9999 0 1 0 1 99AC 0 1 0 1",
    "9AA8 0 1 0 1 9AD8 0 1 0 1 9ADF 0 1 0 1 9B25 0 1 0 1 9B2F 0 1 0 1 9B32 0 1 0 1 9B3C 0 1 0 1 9B5A 0 1 0 1 9CE5 0 1",
    "0 1 9E75 0 1 0 1 9E7F 0 1 0 1 9EA5 0 1 0 1 9EBB 0 1 0 1 9EC3 0 1 0 1 9ECD 0 1 0 1 9ED1 0 1 0 1 9EF9 0 1 0 1 9EFD",
    "0 1 0 1 9F0E 0 1 0 1 9F13 0 1 0 1 9F20 0 1 0 1 9F3B 0 1 0 1 9F4A 0 1 0 1 9F52 0 1 0 1 9F8D 0 1 0 1 9F9C 0 1 0 1",
    "9FA0 2A 1 0 1 20 1 1 0 1 2E 33 1 0 1 3012 1 1 0 1 5341 0 2 1 5344 60 1 0 2 20 3099 0 1 0 2 20 309A 2 1 0 2 3088",
    "308A 5F 1 0 2 30B3 30C8 31 2 1 1100 0 1 0 1 11AA 0 1 0 1 1102 0 2 1 11AC 0 3 1 1103 0 6 1 11B0 0 1 0 1 111A 0 3",
    "1 1106 0 1 0 1 1121 0 A 1 1109 0 15 1 1161 0 1 0 0 0 2 1 1114 0 2 1 11C7 0 1 0 1 11CC 0 1 0 1 11CE 0 1 0 1 11D3",
    "0 1 0 1 11D7 0 1 0 1 11D9 0 1 0 1 111C 0 1 0 1 11DD 0 1 0 1 11DF 0 2 1 111D 0 1 0 1 1120 0 2 1 1122 0 1 0 1 1127",
    "0 1 0 1 1129 0 5 1 112B 0 1 0 1 1132 0 1 0 1 1136 0 1 0 1 1140 0 1 0 1 1147 0 1 0 1 114C 0 2 1 11F1 0 3 1 1157 0",
    "2 1 1184 0 1 0 1 1188 0 2 1 1191 0 1 0 1 1194 0 1 0 1 119E 0 1 0 1 11A1 3 1 0 1 4E00 0 1 0 1 4E8C 0 1 0 1 4E09 0",
    "1 0 1 56DB 0 1 0 1 4E0A 0 1 0 1 4E2D 0 1 0 1 4E0B 0 1 0 1 7532 0 1 0 1 4E59 0 1 0 1 4E19 0 1 0 1 4E01 0 1 0 1",
    "5929 0 1 0 1 5730 0 1 0 1 4EBA 60 1 0 3 28 1100 29 0 1 0 3 28 1102 29 0 1 0 3 28 1103 29 0 1 0 3 28 1105 29 0 1",
    "0 3 28 1106 29 0 1 0 3 28 1107 29 0 1 0 3 28 1109 29 0 1 0 3 28 110B 29 0 1 0 3 28 110C 29 0 1 0 3 28 110E 29 0",
    "1 0 3 28 110F 29 0 1 0 3 28 1110 29 0 1 0 3 28 1111 29 0 1 0 3 28 1112 29 0 1 0 3 28 AC00 29 0 1 0 3 28 B098 29",
    "0 1 0 3 28 B2E4 29 0 1 0 3 28 B77C 29 0 1 0 3 28 B9C8 29 0 1 0 3 28 BC14 29 0 1 0 3 28 C0AC 29 0 1 0 3 28 C544",
    "29 0 1 0 3 28 C790 29 0 1 0 3 28 CC28 29 0 1 0 3 28 CE74 29 0 1 0 3 28 D0C0 29 0 1 0 3 28 D30C 29 0 1 0 3 28",
    "D558 29 0 1 0 3 28 C8FC 29 0 1 0 4 28 C624 C804 29 0 1 0 4 28 C624 D6C4 29 1 1 0 3 28 4E00 29 0 1 0 3 28 4E8C 29",
    "0 1 0 3 28 4E09 29 0 1 0 3 28 56DB 29 0 1 0 3 28 4E94 29 0 1 0 3 28 516D 29 0 1 0 3 28 4E03 29 0 1 0 3 28 516B",
    "29 0 1 0 3 28 4E5D 29 0 1 0 3 28 5341 29 0 1 0 3 28 6708 29 0 1 0 3 28 706B 29 0 1 0 3 28 6C34 29 0 1 0 3 28",
    "6728 29 0 1 0 3 28 91D1 29 0 1 0 3 28 571F 29 0 1 0 3 28 65E5 29 0 1 0 3 28 682A 29 0 1 0 3 28 6709 29 0 1 0 3",
    "28 793E 29 0 1 0 3 28 540D 29 0 1 0 3 28 7279 29 0 1 0 3 28 8CA1 29 0 1 0 3 28 795D 29 0 1 0 3 28 52B4 29 0 1 0",
    "3 28 4EE3 29 0 1 0 3 28 547C 29 0 1 0 3 28 5B66 29 0 1 0 3 28 76E3 29 0 1 0 3 28 4F01 29 0 1 0 3 28 8CC7 29 0 1",
    "0 3 28 5354 29 0 1 0 3 28 796D 29 0 1 0 3 28 4F11 29 0 1 0 3 28 81EA 29 0 1 0 3 28 81F3 29 0 1 0 1 554F 0 1 0 1",
    "5E7C 0 1 0 1 6587 0 1 0 1 7B8F 8 1 0 3 70 74 65 0 1 0 2 32 31 0 1 0 2 32 32 0 1 0 2 32 33 0 1 0 2 32 34 0 1 0 2",
    "32 35 0 1 0 2 32 36 0 1 0 2 32 37 0 1 0 2 32 38 0 1 0 2 32 39 0 1 0 2 33 30 0 1 0 2 33 31 0 1 0 2 33 32 0 1 0 2",
    "33 33 0 1 0 2 33 34 0 1 0 2 33 35 0 1 0 1 1100 0 2 1 1102 0 3 1 1105 0 1 0 1 1109 0 2 1 110B 0 5 1 110E 0 1 0 1",
    "AC00 0 1 0 1 B098 0 1 0 1 B2E4 0 1 0 1 B77C 0 1 0 1 B9C8 0 1 0 1 BC14 0 1 0 1 C0AC 0 1 0 1 C544 0 1 0 1 C790 0 1",
    "0 1 CC28 0 1 0 1 CE74 0 1 0 1 D0C0 0 1 0 1 D30C 0 1 0 1 D558 0 1 0 2 CC38 ACE0 0 1 0 2 C8FC C758 0 1 0 1 C6B0 1",
    "1 0 1 4E00 0 1 0 1 4E8C 0 1 0 1 4E09 0 1 0 1 56DB 0 1 0 1 4E94 0 1 0 1 516D 0 1 0 1 4E03 0 1 0 1 516B 0 1 0 1",
    "4E5D 0 1 0 1 5341 0 1 0 1 6708 0 1 0 1 706B 0 1 0 1 6C34 0 1 0 1 6728 0 1 0 1 91D1 0 1 0 1 571F 0 1 0 1 65E5 0 1",
    "0 1 682A 0 1 0 1 6709 0 1 0 1 793E 0 1 0 1 540D 0 1 0 1 7279 0 1 0 1 8CA1 0 1 0 1 795D 0 1 0 1 52B4 0 1 0 1 79D8",
    "0 1 0 1 7537 0 1 0 1 5973 0 1 0 1 9069 0 1 0 1 512A 0 1 0 1 5370 0 1 0 1 6CE8 0 1 0 1 9805 0 1 0 1 4F11 0 1 0 1",
    "5199 0 1 0 1 6B63 0 1 0 1 4E0A 0 1 0 1 4E2D 0 1 0 1 4E0B 0 1 0 1 5DE6 0 1 0 1 53F3 0 1 0 1 533B 0 1 0 1 5B97 0 1",
    "0 1 5B66 0 1 0 1 76E3 0 1 0 1 4F01 0 1 0 1 8CC7 0 1 0 1 5354 0 1 0 1 591C 0 1 0 2 33 36 0 1 0 2 33 37 0 1 0 2 33",
    "38 0 1 0 2 33 39 0 1 0 2 34 30 0 1 0 2 34 31 0 1 0 2 34 32 0 1 0 2 34 33 0 1 0 2 34 34 0 1 0 2 34 35 0 1 0 2 34",
    "36 0 1 0 2 34 37 0 1 0 2 34 38 0 1 0 2 34 39 0 1 0 2 35 30 0 1 0 2 31 6708 0 1 0 2 32 6708 0 1 0 2 33 6708 0 1 0",
    "2 34 6708 0 1 0 2 35 6708 0 1 0 2 36 6708 0 1 0 2 37 6708 0 1 0 2 38 6708 0 1 0 2 39 6708 0 1 0 3 31 30 6708 0 1",
    "0 3 31 31 6708 0 1 0 3 31 32 6708 0 1 0 2 68 67 0 1 0 3 65 72 67 0 1 0 2 65 76 0 1 0 3 6C 74 64 0 1 0 1 30A2 0 1",
    "0 1 30A4 0 1 0 1 30A6 0 1 0 1 30A8 0 2 1 30AA 0 1 0 1 30AD 0 1 0 1 30AF 0 1 0 1 30B1 0 1 0 1 30B3 0 1 0 1 30B5 0",
    "1 0 1 30B7 0 1 0 1 30B9 0 1 0 1 30BB 0 1 0 1 30BD 0 1 0 1 30BF 0 1 0 1 30C1 0 1 0 1 30C4 0 1 0 1 30C6 0 1 0 1",
    "30C8 0 6 1 30CA 0 1 0 1 30D2 0 1 0 1 30D5 0 1 0 1 30D8 0 1 0 1 30DB 0 5 1 30DE 0 1 0 1 30E4 0 1 0 1 30E6 0 6 1",
    "30E8 0 4 1 30EF 0 1 0 2 4EE4 548C 0 1 0 4 30A2 30D1 30FC 30C8 0 1 0 4 30A2 30EB 30D5 30A1 0 1 0 4 30A2 30F3 30DA",
    "30A2 0 1 0 3 30A2 30FC 30EB 0 1 0 4 30A4 30CB 30F3 30B0 0 1 0 3 30A4 30F3 30C1 0 1 0 3 30A6 30A9 30F3 0 1 0 5",
    "30A8 30B9 30AF 30FC 30C9 0 1 0 4 30A8 30FC 30AB 30FC 0 1 0 3 30AA 30F3 30B9 0 1 0 3 30AA 30FC 30E0 0 1 0 3 30AB",
    "30A4 30EA 0 1 0 4 30AB 30E9 30C3 30C8 0 1 0 4 30AB 30ED 30EA 30FC 0 1 0 3 30AC 30ED 30F3 0 1 0 3 30AC 30F3 30DE",
    "0 1 0 2 30AE 30AC 0 1 0 3 30AE 30CB 30FC 0 1 0 4 30AD 30E5 30EA 30FC 0 1 0 4 30AE 30EB 30C0 30FC 0 1 0 2 30AD",
    "30ED 0 1 0 5 30AD 30ED 30B0 30E9 30E0 0 1 0 6 30AD 30ED 30E1 30FC 30C8 30EB 0 1 0 5 30AD 30ED 30EF 30C3 30C8 0 1",
    "0 3 30B0 30E9 30E0 0 1 0 5 30B0 30E9 30E0 30C8 30F3 0 1 0 5 30AF 30EB 30BC 30A4 30ED 0 1 0 4 30AF 30ED 30FC 30CD",
    "0 1 0 3 30B1 30FC 30B9 0 1 0 3 30B3 30EB 30CA 0 1 0 3 30B3 30FC 30DD 0 1 0 4 30B5 30A4 30AF 30EB 0 1 0 5 30B5",
    "30F3 30C1 30FC 30E0 0 1 0 4 30B7 30EA 30F3 30B0 0 1 0 3 30BB 30F3 30C1 0 1 0 3 30BB 30F3 30C8 0 1 0 3 30C0 30FC",
    "30B9 0 1 0 2 30C7 30B7 0 1 0 2 30C9 30EB 0 1 0 2 30C8 30F3 0 1 0 2 30CA 30CE 0 1 0 3 30CE 30C3 30C8 0 1 0 3 30CF",
    "30A4 30C4 0 1 0 5 30D1 30FC 30BB 30F3 30C8 0 1 0 3 30D1 30FC 30C4 0 1 0 4 30D0 30FC 30EC 30EB 0 1 0 5 30D4 30A2",
    "30B9 30C8 30EB 0 1 0 3 30D4 30AF 30EB 0 1 0 2 30D4 30B3 0 1 0 2 30D3 30EB 0 1 0 5 30D5 30A1 30E9 30C3 30C9 0 1 0",
    "4 30D5 30A3 30FC 30C8 0 1 0 5 30D6 30C3 30B7 30A7 30EB 0 1 0 3 30D5 30E9 30F3 0 1 0 5 30D8 30AF 30BF 30FC 30EB 0",
    "1 0 2 30DA 30BD 0 1 0 3 30DA 30CB 30D2 0 1 0 3 30D8 30EB 30C4 0 1 0 3 30DA 30F3 30B9 0 1 0 3 30DA 30FC 30B8 0 1",
    "0 3 30D9 30FC 30BF 0 1 0 4 30DD 30A4 30F3 30C8 0 1 0 3 30DC 30EB 30C8 0 1 0 2 30DB 30F3 0 1 0 3 30DD 30F3 30C9 0",
    "1 0 3 30DB 30FC 30EB 0 1 0 3 30DB 30FC 30F3 0 1 0 4 30DE 30A4 30AF 30ED 0 1 0 3 30DE 30A4 30EB 0 1 0 3 30DE 30C3",
    "30CF 0 1 0 3 30DE 30EB 30AF 0 1 0 5 30DE 30F3 30B7 30E7 30F3 0 1 0 4 30DF 30AF 30ED 30F3 0 1 0 2 30DF 30EA 0 1 0",
    "5 30DF 30EA 30D0 30FC 30EB 0 1 0 2 30E1 30AC 0 1 0 4 30E1 30AC 30C8 30F3 0 1 0 4 30E1 30FC 30C8 30EB 0 1 0 3",
    "30E4 30FC 30C9 0 1 0 3 30E4 30FC 30EB 0 1 0 3 30E6 30A2 30F3 0 1 0 4 30EA 30C3 30C8 30EB 0 1 0 2 30EA 30E9 0 1 0",
    "3 30EB 30D4 30FC 0 1 0 4 30EB 30FC 30D6 30EB 0 1 0 2 30EC 30E0 0 1 0 5 30EC 30F3 30C8 30B2 30F3 0 1 0 3 30EF",
    "30C3 30C8 0 1 0 2 30 70B9 0 1 0 2 31 70B9 0 1 0 2 32 70B9 0 1 0 2 33 70B9 0 1 0 2 34 70B9 0 1 0 2 35 70B9 0 1 0",
    "2 36 70B9 0 1 0 2 37 70B9 0 1 0 2 38 70B9 0 1 0 2 39 70B9 0 1 0 3 31 30 70B9 0 1 0 3 31 31 70B9 0 1 0 3 31 32",
    "70B9 0 1 0 3 31 33 70B9 0 1 0 3 31 34 70B9 0 1 0 3 31 35 70B9 0 1 0 3 31 36 70B9 0 1 0 3 31 37 70B9 0 1 0 3 31",
    "38 70B9 0 1 0 3 31 39 70B9 0 1 0 3 32 30 70B9 0 1 0 3 32 31 70B9 0 1 0 3 32 32 70B9 0 1 0 3 32 33 70B9 0 1 0 3",
    "32 34 70B9 0 1 0 3 68 70 61 0 1 0 2 64 61 0 1 0 2 61 75 0 1 0 3 62 61 72 0 1 0 2 6F 76 0 1 0 2 70 63 0 1 0 2 64",
    "6D 0 1 0 3 64 6D 32 0 1 0 3 64 6D 33 0 1 0 2 69 75 0 1 0 2 5E73 6210 0 1 0 2 662D 548C 0 1 0 2 5927 6B63 0 1 0 2",
    "660E 6CBB 0 1 0 4 682A 5F0F 4F1A 793E 0 1 0 2 70 61 0 1 0 2 6E 61 0 1 0 2 3BC 61 0 1 0 2 6D 61 0 1 0 2 6B 61 0 1",
    "0 2 6B 62 0 1 0 2 6D 62 0 1 0 2 67 62 0 1 0 3 63 61 6C 0 1 0 4 6B 63 61 6C 0 1 0 2 70 66 0 1 0 2 6E 66 0 1 0 2",
    "3BC 66 0 1 0 2 3BC 67 0 1 0 2 6D 67 0 1 0 2 6B 67 0 1 0 2 68 7A 0 1 0 3 6B 68 7A 0 1 0 3 6D 68 7A 0 1 0 3 67 68",
    "7A 0 1 0 3 74 68 7A 0 1 0 2 3BC 6C 0 1 0 2 6D 6C 0 1 0 2 64 6C 0 1 0 2 6B 6C 0 1 0 2 66 6D 0 1 0 2 6E 6D 0 1 0 2",
    "3BC 6D 0 1 0 2 6D 6D 0 1 0 2 63 6D 0 1 0 2 6B 6D 0 1 0 3 6D 6D 32 0 1 0 3 63 6D 32 0 1 0 2 6D 32 0 1 0 3 6B 6D",
    "32 0 1 0 3 6D 6D 33 0 1 0 3 63 6D 33 0 1 0 2 6D 33 0 1 0 3 6B 6D 33 0 1 0 3 6D 2215 73 0 1 0 4 6D 2215 73 32 0 1",
    "0 2 70 61 0 1 0 3 6B 70 61 0 1 0 3 6D 70 61 0 1 0 3 67 70 61 0 1 0 3 72 61 64 0 1 0 5 72 61 64 2215 73 0 1 0 6",
    "72 61 64 2215 73 32 0 1 0 2 70 73 0 1 0 2 6E 73 0 1 0 2 3BC 73 0 1 0 2 6D 73 0 1 0 2 70 76 0 1 0 2 6E 76 0 1 0 2",
    "3BC 76 0 1 0 2 6D 76 0 1 0 2 6B 76 0 1 0 2 6D 76 0 1 0 2 70 77 0 1 0 2 6E 77 0 1 0 2 3BC 77 0 1 0 2 6D 77 0 1 0",
    "2 6B 77 0 1 0 2 6D 77 0 1 0 2 6B 3C9 0 1 0 2 6D 3C9 1 1 0 2 62 71 0 1 0 2 63 63 0 1 0 2 63 64 0 1 0 4 63 2215 6B",
    "67 1 1 0 2 64 62 0 1 0 2 67 79 0 1 0 2 68 61 0 1 0 2 68 70 0 1 0 2 69 6E 0 1 0 2 6B 6B 0 1 0 2 6B 6D 0 1 0 2 6B",
    "74 0 1 0 2 6C 6D 0 1 0 2 6C 6E 0 1 0 3 6C 6F 67 0 1 0 2 6C 78 0 1 0 2 6D 62 0 1 0 3 6D 69 6C 0 1 0 3 6D 6F 6C 0",
    "1 0 2 70 68 1 1 0 3 70 70 6D 0 1 0 2 70 72 0 1 0 2 73 72 0 1 0 2 73 76 0 1 0 2 77 62 0 1 0 3 76 2215 6D 0 1 0 3",
    "61 2215 6D 0 1 0 2 31 65E5 0 1 0 2 32 65E5 0 1 0 2 33 65E5 0 1 0 2 34 65E5 0 1 0 2 35 65E5 0 1 0 2 36 65E5 0 1 0",
    "2 37 65E5 0 1 0 2 38 65E5 0 1 0 2 39 65E5 0 1 0 3 31 30 65E5 0 1 0 3 31 31 65E5 0 1 0 3 31 32 65E5 0 1 0 3 31 33",
    "65E5 0 1 0 3 31 34 65E5 0 1 0 3 31 35 65E5 0 1 0 3 31 36 65E5 0 1 0 3 31 37 65E5 0 1 0 3 31 38 65E5 0 1 0 3 31",
    "39 65E5 0 1 0 3 32 30 65E5 0 1 0 3 32 31 65E5 0 1 0 3 32 32 65E5 0 1 0 3 32 33 65E5 0 1 0 3 32 34 65E5 0 1 0 3",
    "32 35 65E5 0 1 0 3 32 36 65E5 0 1 0 3 32 37 65E5 0 1 0 3 32 38 65E5 0 1 0 3 32 39 65E5 0 1 0 3 33 30 65E5 0 1 0",
    "3 33 31 65E5 0 1 0 3 67 61 6C 7240 17 2 A641 13 E 2 A681 1 1 0 1 44A 0 1 0 1 44C 84 7 2 A723 3 1F 2 A733 1 1 0 1",
    "A76F 8 2 2 A77A 1 1 0 1 1D79 0 5 2 A77F 4 1 0 1 A78C 1 1 0 1 265 2 2 2 A791 3 A 2 A797 1 1 0 1 266 0 1 0 1 25C 0",
    "1 0 1 261 0 1 0 1 26C 0 1 0 1 26A 1 1 0 1 29E 0 1 0 1 287 0 1 0 1 29D 0 1 0 1 AB53 0 8 2 A7B5 1 1 0 1 A794 0 1 0",
    "1 282 0 1 0 1 1D8E 0 2 2 A7C8 6 1 0 1 A7D1 5 2 2 A7D7 19 1 0 1 63 0 1 0 1 66 0 1 0 1 71 0 1 0 1 A7F6 2 1 0 1 127",
    "0 1 0 1 153 362 1 0 1 A727 0 1 0 1 AB37 0 1 0 1 26B 0 1 0 1 AB52 9 1 0 1 28D 6 50 1 13A0 4D40 1 0 1 8C48 0 1 0 1",
    "66F4 0 1 0 1 8ECA 0 1 0 1 8CC8 0 1 0 1 6ED1 0 1 0 1 4E32 0 1 0 1 53E5 0 2 0 1 9F9C 0 1 0 1 5951 0 1 0 1 91D1 0 1",
    "0 1 5587 0 1 0 1 5948 0 1 0 1 61F6 0 1 0 1 7669 0 1 0 1 7F85 0 1 0 1 863F 0 1 0 1 87BA 0 1 0 1 88F8 0 1 0 1 908F",
    "0 1 0 1 6A02 0 1 0 1 6D1B 0 1 0 1 70D9 0 1 0 1 73DE 0 1 0 1 843D 0 1 0 1 916A 0 1 0 1 99F1 0 1 0 1 4E82 0 1 0 1",
    "5375 0 1 0 1 6B04 0 1 0 1 721B 0 1 0 1 862D 0 1 0 1 9E1E 0 1 0 1 5D50 0 1 0 1 6FEB 0 1 0 1 85CD 0 1 0 1 8964 0 1",
    "0 1 62C9 0 1 0 1 81D8 0 1 0 1 881F 0 1 0 1 5ECA 0 1 0 1 6717 0 1 0 1 6D6A 0 1 0 1 72FC 0 1 0 1 90CE 0 1 0 1 4F86",
    "0 1 0 1 51B7 0 1 0 1 52DE 0 1 0 1 64C4 0 1 0 1 6AD3 0 1 0 1 7210 0 1 0 1 76E7 0 1 0 1 8001 0 1 0 1 8606 0 1 0 1",
    "865C 0 1 0 1 8DEF 0 1 0 1 9732 0 1 0 1 9B6F 0 1 0 1 9DFA 0 1 0 1 788C 0 1 0 1 797F 0 1 0 1 7DA0 0 1 0 1 83C9 0 1",
    "0 1 9304 0 1 0 1 9E7F 0 1 0 1 8AD6 0 1 0 1 58DF 0 1 0 1 5F04 0 1 0 1 7C60 0 1 0 1 807E 0 1 0 1 7262 0 1 0 1 78CA",
    "0 1 0 1 8CC2 0 1 0 1 96F7 0 1 0 1 58D8 0 1 0 1 5C62 0 1 0 1 6A13 0 1 0 1 6DDA 0 1 0 1 6F0F 0 1 0 1 7D2F 0 1 0 1",
    "7E37 0 1 0 1 964B 0 1 0 1 52D2 0 1 0 1 808B 0 1 0 1 51DC 0 1 0 1 51CC 0 1 0 1 7A1C 0 1 0 1 7DBE 0 1 0 1 83F1 0 1",
    "0 1 9675 0 1 0 1 8B80 0 1 0 1 62CF 0 1 0 1 6A02 0 1 0 1 8AFE 0 1 0 1 4E39 0 1 0 1 5BE7 0 1 0 1 6012 0 1 0 1 7387",
    "0 1 0 1 7570 0 1 0 1 5317 0 1 0 1 78FB 0 1 0 1 4FBF 0 1 0 1 5FA9 0 1 0 1 4E0D 0 1 0 1 6CCC 0 1 0 1 6578 0 1 0 1",
    "7D22 0 1 0 1 53C3 0 1 0 1 585E 0 1 0 1 7701 0 1 0 1 8449 0 1 0 1 8AAA 0 1 0 1 6BBA 0 1 0 1 8FB0 0 1 0 1 6C88 0 1",
    "0 1 62FE 0 1 0 1 82E5 0 1 0 1 63A0 0 1 0 1 7565 0 1 0 1 4EAE 0 1 0 1 5169 0 1 0 1 51C9 0 1 0 1 6881 0 1 0 1 7CE7",
    "0 1 0 1 826F 0 1 0 1 8AD2 0 1 0 1 91CF 0 1 0 1 52F5 0 1 0 1 5442 0 1 0 1 5973 0 1 0 1 5EEC 0 1 0 1 65C5 0 1 0 1",
    "6FFE 0 1 0 1 792A 0 1 0 1 95AD 0 1 0 1 9A6A 0 1 0 1 9E97 0 1 0 1 9ECE 0 1 0 1 529B 0 1 0 1 66C6 0 1 0 1 6B77 0 1",
    "0 1 8F62 0 1 0 1 5E74 0 1 0 1 6190 0 1 0 1 6200 0 1 0 1 649A 0 1 0 1 6F23 0 1 0 1 7149 0 1 0 1 7489 0 1 0 1 79CA",
    "0 1 0 1 7DF4 0 1 0 1 806F 0 1 0 1 8F26 0 1 0 1 84EE 0 1 0 1 9023 0 1 0 1 934A 0 1 0 1 5217 0 1 0 1 52A3 0 1 0 1",
    "54BD 0 1 0 1 70C8 0 1 0 1 88C2 0 1 0 1 8AAA 0 1 0 1 5EC9 0 1 0 1 5FF5 0 1 0 1 637B 0 1 0 1 6BAE 0 1 0 1 7C3E 0 1",
    "0 1 7375 0 1 0 1 4EE4 0 1 0 1 56F9 0 1 0 1 5BE7 0 1 0 1 5DBA 0 1 0 1 601C 0 1 0 1 73B2 0 1 0 1 7469 0 1 0 1 7F9A",
    "0 1 0 1 8046 0 1 0 1 9234 0 1 0 1 96F6 0 1 0 1 9748 0 1 0 1 9818 0 1 0 1 4F8B 0 1 0 1 79AE 0 1 0 1 91B4 0 1 0 1",
    "96B8 0 1 0 1 60E1 0 1 0 1 4E86 0 1 0 1 50DA 0 1 0 1 5BEE 0 1 0 1 5C3F 0 1 0 1 6599 0 1 0 1 6A02 0 1 0 1 71CE 0 1",
    "0 1 7642 0 1 0 1 84FC 0 1 0 1 907C 0 1 0 1 9F8D 0 1 0 1 6688 0 1 0 1 962E 0 1 0 1 5289 0 1 0 1 677B 0 1 0 1 67F3",
    "0 1 0 1 6D41 0 1 0 1 6E9C 0 1 0 1 7409 0 1 0 1 7559 0 1 0 1 786B 0 1 0 1 7D10 0 1 0 1 985E 0 1 0 1 516D 0 1 0 1",
    "622E 0 1 0 1 9678 0 1 0 1 502B 0 1 0 1 5D19 0 1 0 1 6DEA 0 1 0 1 8F2A 0 1 0 1 5F8B 0 1 0 1 6144 0 1 0 1 6817 0 1",
    "0 1 7387 0 1 0 1 9686 0 1 0 1 5229 0 1 0 1 540F 0 1 0 1 5C65 0 1 0 1 6613 0 1 0 1 674E 0 1 0 1 68A8 0 1 0 1 6CE5",
    "0 1 0 1 7406 0 1 0 1 75E2 0 1 0 1 7F79 0 1 0 1 88CF 0 1 0 1 88E1 0 1 0 1 91CC 0 1 0 1 96E2 0 1 0 1 533F 0 1 0 1",
    "6EBA 0 1 0 1 541D 0 1 0 1 71D0 0 1 0 1 7498 0 1 0 1 85FA 0 1 0 1 96A3 0 1 0 1 9C57 0 1 0 1 9E9F 0 1 0 1 6797 0 1",
    "0 1 6DCB 0 1 0 1 81E8 0 1 0 1 7ACB 0 1 0 1 7B20 0 1 0 1 7C92 0 1 0 1 72C0 0 1 0 1 7099 0 1 0 1 8B58 0 1 0 1 4EC0",
    "0 1 0 1 8336 0 1 0 1 523A 0 1 0 1 5207 0 1 0 1 5EA6 0 1 0 1 62D3 0 1 0 1 7CD6 0 1 0 1 5B85 0 1 0 1 6D1E 0 1 0 1",
    "66B4 0 1 0 1 8F3B 0 1 0 1 884C 0 1 0 1 964D 0 1 0 1 898B 0 1 0 1 5ED3 0 1 0 1 5140 0 1 0 1 55C0 2 1 0 1 585A 1 1",
    "0 1 6674 2 1 0 1 51DE 0 1 0 1 732A 0 1 0 1 76CA 0 1 0 1 793C 0 1 0 1 795E 0 1 0 1 7965 0 1 0 1 798F 0 1 0 1 9756",
    "0 1 0 1 7CBE 0 1 0 1 7FBD 1 1 0 1 8612 1 1 0 1 8AF8 2 1 0 1 9038 0 1 0 1 90FD 3 1 0 1 98EF 0 1 0 1 98FC 0 1 0 1",
    "9928 0 1 0 1 9DB4 0 1 0 1 90DE 0 1 0 1 96B7 0 1 0 1 4FAE 0 1 0 1 50E7 0 1 0 1 514D 0 1 0 1 52C9 0 1 0 1 52E4 0 1",
    "0 1 5351 0 1 0 1 559D 0 1 0 1 5606 0 1 0 1 5668 0 1 0 1 5840 0 1 0 1 58A8 0 1 0 1 5C64 0 1 0 1 5C6E 0 1 0 1 6094",
    "0 1 0 1 6168 0 1 0 1 618E 0 1 0 1 61F2 0 1 0 1 654F 0 1 0 1 65E2 0 1 0 1 6691 0 1 0 1 6885 0 1 0 1 6D77 0 1 0 1",
    "6E1A 0 1 0 1 6F22 0 1 0 1 716E 0 1 0 1 722B 0 1 0 1 7422 0 1 0 1 7891 0 1 0 1 793E 0 1 0 1 7949 0 1 0 1 7948 0 1",
    "0 1 7950 0 1 0 1 7956 0 1 0 1 795D 0 2 1 798D 0 1 0 1 7A40 0 1 0 1 7A81 0 1 0 1 7BC0 0 1 0 1 7DF4 0 1 0 1 7E09 0",
    "1 0 1 7E41 0 1 0 1 7F72 0 1 0 1 8005 0 1 0 1 81ED 0 2 0 1 8279 0 1 0 1 8457 0 1 0 1 8910 0 1 0 1 8996 0 1 0 1",
    "8B01 0 1 0 1 8B39 0 1 0 1 8CD3 0 1 0 1 8D08 0 1 0 1 8FB6 0 1 0 1 9038 0 1 0 1 96E3 0 1 0 1 97FF 0 1 0 1 983B 0 1",
    "0 1 6075 0 1 0 1 242EE 0 1 0 1 8218 2 1 0 1 4E26 0 1 0 1 51B5 0 1 0 1 5168 0 1 0 1 4F80 0 1 0 1 5145 0 1 0 1",
    "5180 0 1 0 1 52C7 0 1 0 1 52FA 0 1 0 1 559D 0 1 0 1 5555 0 1 0 1 5599 0 1 0 1 55E2 0 1 0 1 585A 0 1 0 1 58B3 0 1",
    "0 1 5944 0 1 0 1 5954 0 1 0 1 5A62 0 1 0 1 5B28 0 1 0 1 5ED2 0 1 0 1 5ED9 0 1 0 1 5F69 0 1 0 1 5FAD 0 1 0 1 60D8",
    "0 1 0 1 614E 0 1 0 1 6108 0 1 0 1 618E 0 1 0 1 6160 0 1 0 1 61F2 0 1 0 1 6234 0 1 0 1 63C4 0 1 0 1 641C 0 1 0 1",
    "6452 0 1 0 1 6556 0 1 0 1 6674 0 1 0 1 6717 0 1 0 1 671B 0 1 0 1 6756 0 1 0 1 6B79 0 1 0 1 6BBA 0 1 0 1 6D41 0 1",
    "0 1 6EDB 0 1 0 1 6ECB 0 1 0 1 6F22 0 1 0 1 701E 0 1 0 1 716E 0 1 0 1 77A7 0 1 0 1 7235 0 1 0 1 72AF 0 1 0 1 732A",
    "0 1 0 1 7471 0 1 0 1 7506 0 1 0 1 753B 0 1 0 1 761D 0 1 0 1 761F 0 1 0 1 76CA 0 1 0 1 76DB 0 1 0 1 76F4 0 1 0 1",
    "774A 0 1 0 1 7740 0 1 0 1 78CC 0 1 0 1 7AB1 0 1 0 1 7BC0 0 1 0 1 7C7B 0 1 0 1 7D5B 0 1 0 1 7DF4 0 1 0 1 7F3E 0 1",
    "0 1 8005 0 1 0 1 8352 0 1 0 1 83EF 0 1 0 1 8779 0 1 0 1 8941 0 1 0 1 8986 0 1 0 1 8996 0 1 0 1 8ABF 0 1 0 1 8AF8",
    "0 1 0 1 8ACB 0 1 0 1 8B01 0 1 0 1 8AFE 0 1 0 1 8AED 0 1 0 1 8B39 0 1 0 1 8B8A 0 1 0 1 8D08 0 1 0 1 8F38 0 1 0 1",
    "9072 0 1 0 1 9199 0 1 0 1 9276 0 1 0 1 967C 0 1 0 1 96E3 0 1 0 1 9756 0 1 0 1 97DB 0 1 0 1 97FF 0 1 0 1 980B 0 1",
    "0 1 983B 0 1 0 1 9B12 0 1 0 1 9F9C 0 1 0 1 2284A 0 1 0 1 22844 0 1 0 1 233D5 0 1 0 1 3B9D 0 1 0 1 4018 0 1 0 1",
    "4039 0 1 0 1 25249 0 1 0 1 25CD0 0 1 0 1 27ED3 0 1 0 1 9F43 0 1 0 1 9F8E 26 1 0 2 66 66 0 1 0 2 66 69 0 1 0 2 66",
    "6C 0 1 0 3 66 66 69 0 1 0 3 66 66 6C 0 2 0 2 73 74 C 1 0 2 574 576 0 1 0 2 574 565 0 1 0 2 574 56B 0 1 0 2 57E",
    "576 0 1 0 2 574 56D 5 1 0 2 5D9 5B4 1 1 0 2 5F2 5B7 0 1 0 1 5E2 0 1 0 1 5D0 0 2 1 5D3 0 3 1 5DB 0 1 0 1 5E8 0 1",
    "0 1 5EA 0 1 0 1 2B 0 1 0 2 5E9 5C1 0 1 0 2 5E9 5C2 0 1 0 3 5E9 5BC 5C1 0 1 0 3 5E9 5BC 5C2 0 1 0 2 5D0 5B7 0 1 0",
    "2 5D0 5B8 0 1 0 2 5D0 5BC 0 1 0 2 5D1 5BC 0 1 0 2 5D2 5BC 0 1 0 2 5D3 5BC 0 1 0 2 5D4 5BC 0 1 0 2 5D5 5BC 0 1 0",
    "2 5D6 5BC 1 1 0 2 5D8 5BC 0 1 0 2 5D9 5BC 0 1 0 2 5DA 5BC 0 1 0 2 5DB 5BC 0 1 0 2 5DC 5BC 1 1 0 2 5DE 5BC 1 1 0",
    "2 5E0 5BC 0 1 0 2 5E1 5BC 1 1 0 2 5E3 5BC 0 1 0 2 5E4 5BC 1 1 0 2 5E6 5BC 0 1 0 2 5E7 5BC 0 1 0 2 5E8 5BC 0 1 0",
    "2 5E9 5BC 0 1 0 2 5EA 5BC 0 1 0 2 5D5 5B9 0 1 0 2 5D1 5BF 0 1 0 2 5DB 5BF 0 1 0 2 5E4 5BF 0 1 0 2 5D0 5DC 0 2 0",
    "1 671 0 4 0 1 67B 0 4 0 1 67E 0 4 0 1 680 0 4 0 1 67A 0 4 0 1 67F 0 4 0 1 679 0 4 0 1 6A4 0 4 0 1 6A6 0 4 0 1",
    "684 0 4 0 1 683 0 4 0 1 686 0 4 0 1 687 0 2 0 1 68D 0 2 0 1 68C 0 2 0 1 68E 0 2 0 1 688 0 2 0 1 698 0 2 0 1 691",
    "0 4 0 1 6A9 0 4 0 1 6AF 0 4 0 1 6B3 0 4 0 1 6B1 0 2 0 1 6BA 0 4 0 1 6BB 0 2 0 1 6C0 0 4 0 1 6C1 0 4 0 1 6BE 0 2",
    "0 1 6D2 0 2 0 1 6D3 21 4 0 1 6AD 0 2 0 1 6C7 0 2 0 1 6C6 0 2 0 1 6C8 0 1 0 2 6C7 674 0 2 0 1 6CB 0 2 0 1 6C5 0 2",
    "0 1 6C9 0 4 0 1 6D0 0 2 0 1 649 0 2 0 2 626 627 0 2 0 2 626 6D5 0 2 0 2 626 648 0 2 0 2 626 6C7 0 2 0 2 626 6C6",
    "0 2 0 2 626 6C8 0 3 0 2 626 6D0 0 3 0 2 626 649 0 4 0 1 6CC 0 1 0 2 626 62C 0 1 0 2 626 62D 0 1 0 2 626 645 0 1",
    "0 2 626 649 0 1 0 2 626 64A 0 1 0 2 628 62C 0 1 0 2 628 62D 0 1 0 2 628 62E 0 1 0 2 628 645 0 1 0 2 628 649 0 1",
    "0 2 628 64A 0 1 0 2 62A 62C 0 1 0 2 62A 62D 0 1 0 2 62A 62E 0 1 0 2 62A 645 0 1 0 2 62A 649 0 1 0 2 62A 64A 0 1",
    "0 2 62B 62C 0 1 0 2 62B 645 0 1 0 2 62B 649 0 1 0 2 62B 64A 0 1 0 2 62C 62D 0 1 0 2 62C 645 0 1 0 2 62D 62C 0 1",
    "0 2 62D 645 0 1 0 2 62E 62C 0 1 0 2 62E 62D 0 1 0 2 62E 645 0 1 0 2 633 62C 0 1 0 2 633 62D 0 1 0 2 633 62E 0 1",
    "0 2 633 645 0 1 0 2 635 62D 0 1 0 2 635 645 0 1 0 2 636 62C 0 1 0 2 636 62D 0 1 0 2 636 62E 0 1 0 2 636 645 0 1",
    "0 2 637 62D 0 1 0 2 637 645 0 1 0 2 638 645 0 1 0 2 639 62C 0 1 0 2 639 645 0 1 0 2 63A 62C 0 1 0 2 63A 645 0 1",
    "0 2 641 62C 0 1 0 2 641 62D 0 1 0 2 641 62E 0 1 0 2 641 645 0 1 0 2 641 649 0 1 0 2 641 64A 0 1 0 2 642 62D 0 1",
    "0 2 642 645 0 1 0 2 642 649 0 1 0 2 642 64A 0 1 0 2 643 627 0 1 0 2 643 62C 0 1 0 2 643 62D 0 1 0 2 643 62E 0 1",
    "0 2 643 644 0 1 0 2 643 645 0 1 0 2 643 649 0 1 0 2 643 64A 0 1 0 2 644 62C 0 1 0 2 644 62D 0 1 0 2 644 62E 0 1",
    "0 2 644 645 0 1 0 2 644 649 0 1 0 2 644 64A 0 1 0 2 645 62C 0 1 0 2 645 62D 0 1 0 2 645 62E 0 1 0 2 645 645 0 1",
    "0 2 645 649 0 1 0 2 645 64A 0 1 0 2 646 62C 0 1 0 2 646 62D 0 1 0 2 646 62E 0 1 0 2 646 645 0 1 0 2 646 649 0 1",
    "0 2 646 64A 0 1 0 2 647 62C 0 1 0 2 647 645 0 1 0 2 647 649 0 1 0 2 647 64A 0 1 0 2 64A 62C 0 1 0 2 64A 62D 0 1",
    "0 2 64A 62E 0 1 0 2 64A 645 0 1 0 2 64A 649 0 1 0 2 64A 64A 0 1 0 2 630 670 0 1 0 2 631 670 0 1 0 2 649 670 0 1",
    "0 3 20 64C 651 0 1 0 3 20 64D 651 0 1 0 3 20 64E 651 0 1 0 3 20 64F 651 0 1 0 3 20 650 651 0 1 0 3 20 651 670 0",
    "1 0 2 626 631 0 1 0 2 626 632 0 1 0 2 626 645 0 1 0 2 626 646 0 1 0 2 626 649 0 1 0 2 626 64A 0 1 0 2 628 631 0",
    "1 0 2 628 632 0 1 0 2 628 645 0 1 0 2 628 646 0 1 0 2 628 649 0 1 0 2 628 64A 0 1 0 2 62A 631 0 1 0 2 62A 632 0",
    "1 0 2 62A 645 0 1 0 2 62A 646 0 1 0 2 62A 649 0 1 0 2 62A 64A 0 1 0 2 62B 631 0 1 0 2 62B 632 0 1 0 2 62B 645 0",
    "1 0 2 62B 646 0 1 0 2 62B 649 0 1 0 2 62B 64A 0 1 0 2 641 649 0 1 0 2 641 64A 0 1 0 2 642 649 0 1 0 2 642 64A 0",
    "1 0 2 643 627 0 1 0 2 643 644 0 1 0 2 643 645 0 1 0 2 643 649 0 1 0 2 643 64A 0 1 0 2 644 645 0 1 0 2 644 649 0",
    "1 0 2 644 64A 0 1 0 2 645 627 0 1 0 2 645 645 0 1 0 2 646 631 0 1 0 2 646 632 0 1 0 2 646 645 0 1 0 2 646 646 0",
    "1 0 2 646 649 0 1 0 2 646 64A 0 1 0 2 649 670 0 1 0 2 64A 631 0 1 0 2 64A 632 0 1 0 2 64A 645 0 1 0 2 64A 646 0",
    "1 0 2 64A 649 0 1 0 2 64A 64A 0 1 0 2 626 62C 0 1 0 2 626 62D 0 1 0 2 626 62E 0 1 0 2 626 645 0 1 0 2 626 647 0",
    "1 0 2 628 62C 0 1 0 2 628 62D 0 1 0 2 628 62E 0 1 0 2 628 645 0 1 0 2 628 647 0 1 0 2 62A 62C 0 1 0 2 62A 62D 0",
    "1 0 2 62A 62E 0 1 0 2 62A 645 0 1 0 2 62A 647 0 1 0 2 62B 645 0 1 0 2 62C 62D 0 1 0 2 62C 645 0 1 0 2 62D 62C 0",
    "1 0 2 62D 645 0 1 0 2 62E 62C 0 1 0 2 62E 645 0 1 0 2 633 62C 0 1 0 2 633 62D 0 1 0 2 633 62E 0 1 0 2 633 645 0",
    "1 0 2 635 62D 0 1 0 2 635 62E 0 1 0 2 635 645 0 1 0 2 636 62C 0 1 0 2 636 62D 0 1 0 2 636 62E 0 1 0 2 636 645 0",
    "1 0 2 637 62D 0 1 0 2 638 645 0 1 0 2 639 62C 0 1 0 2 639 645 0 1 0 2 63A 62C 0 1 0 2 63A 645 0 1 0 2 641 62C 0",
    "1 0 2 641 62D 0 1 0 2 641 62E 0 1 0 2 641 645 0 1 0 2 642 62D 0 1 0 2 642 645 0 1 0 2 643 62C 0 1 0 2 643 62D 0",
    "1 0 2 643 62E 0 1 0 2 643 644 0 1 0 2 643 645 0 1 0 2 644 62C 0 1 0 2 644 62D 0 1 0 2 644 62E 0 1 0 2 644 645 0",
    "1 0 2 644 647 0 1 0 2 645 62C 0 1 0 2 645 62D 0 1 0 2 645 62E 0 1 0 2 645 645 0 1 0 2 646 62C 0 1 0 2 646 62D 0",
    "1 0 2 646 62E 0 1 0 2 646 645 0 1 0 2 646 647 0 1 0 2 647 62C 0 1 0 2 647 645 0 1 0 2 647 670 0 1 0 2 64A 62C 0",
    "1 0 2 64A 62D 0 1 0 2 64A 62E 0 1 0 2 64A 645 0 1 0 2 64A 647 0 1 0 2 626 645 0 1 0 2 626 647 0 1 0 2 628 645 0",
    "1 0 2 628 647 0 1 0 2 62A 645 0 1 0 2 62A 647 0 1 0 2 62B 645 0 1 0 2 62B 647 0 1 0 2 633 645 0 1 0 2 633 647 0",
    "1 0 2 634 645 0 1 0 2 634 647 0 1 0 2 643 644 0 1 0 2 643 645 0 1 0 2 644 645 0 1 0 2 646 645 0 1 0 2 646 647 0",
    "1 0 2 64A 645 0 1 0 2 64A 647 0 1 0 3 640 64E 651 0 1 0 3 640 64F 651 0 1 0 3 640 650 651 0 1 0 2 637 649 0 1 0",
    "2 637 64A 0 1 0 2 639 649 0 1 0 2 639 64A 0 1 0 2 63A 649 0 1 0 2 63A 64A 0 1 0 2 633 649 0 1 0 2 633 64A 0 1 0",
    "2 634 649 0 1 0 2 634 64A 0 1 0 2 62D 649 0 1 0 2 62D 64A 0 1 0 2 62C 649 0 1 0 2 62C 64A 0 1 0 2 62E 649 0 1 0",
    "2 62E 64A 0 1 0 2 635 649 0 1 0 2 635 64A 0 1 0 2 636 649 0 1 0 2 636 64A 0 1 0 2 634 62C 0 1 0 2 634 62D 0 1 0",
    "2 634 62E 0 1 0 2 634 645 0 1 0 2 634 631 0 1 0 2 633 631 0 1 0 2 635 631 0 1 0 2 636 631 0 1 0 2 637 649 0 1 0",
    "2 637 64A 0 1 0 2 639 649 0 1 0 2 639 64A 0 1 0 2 63A 649 0 1 0 2 63A 64A 0 1 0 2 633 649 0 1 0 2 633 64A 0 1 0",
    "2 634 649 0 1 0 2 634 64A 0 1 0 2 62D 649 0 1 0 2 62D 64A 0 1 0 2 62C 649 0 1 0 2 62C 64A 0 1 0 2 62E 649 0 1 0",
    "2 62E 64A 0 1 0 2 635 649 0 1 0 2 635 64A 0 1 0 2 636 649 0 1 0 2 636 64A 0 1 0 2 634 62C 0 1 0 2 634 62D 0 1 0",
    "2 634 62E 0 1 0 2 634 645 0 1 0 2 634 631 0 1 0 2 633 631 0 1 0 2 635 631 0 1 0 2 636 631 0 1 0 2 634 62C 0 1 0",
    "2 634 62D 0 1 0 2 634 62E 0 1 0 2 634 645 0 1 0 2 633 647 0 1 0 2 634 647 0 1 0 2 637 645 0 1 0 2 633 62C 0 1 0",
    "2 633 62D 0 1 0 2 633 62E 0 1 0 2 634 62C 0 1 0 2 634 62D 0 1 0 2 634 62E 0 1 0 2 637 645 0 1 0 2 638 645 0 2 0",
    "2 627 64B 12 1 0 3 62A 62C 645 0 2 0 3 62A 62D 62C 0 1 0 3 62A 62D 645 0 1 0 3 62A 62E 645 0 1 0 3 62A 645 62C 0",
    "1 0 3 62A 645 62D 0 1 0 3 62A 645 62E 0 2 0 3 62C 645 62D 0 1 0 3 62D 645 64A 0 1 0 3 62D 645 649 0 1 0 3 633",
    "62D 62C 0 1 0 3 633 62C 62D 0 1 0 3 633 62C 649 0 2 0 3 633 645 62D 0 1 0 3 633 645 62C 0 2 0 3 633 645 645 0 2",
    "0 3 635 62D 62D 0 1 0 3 635 645 645 0 2 0 3 634 62D 645 0 1 0 3 634 62C 64A 0 2 0 3 634 645 62E 0 2 0 3 634 645",
    "645 0 1 0 3 636 62D 649 0 2 0 3 636 62E 645 0 2 0 3 637 645 62D 0 1 0 3 637 645 645 0 1 0 3 637 645 64A 0 1 0 3",
    "639 62C 645 0 2 0 3 639 645 645 0 1 0 3 639 645 649 0 1 0 3 63A 645 645 0 1 0 3 63A 645 64A 0 1 0 3 63A 645 649",
    "0 2 0 3 641 62E 645 0 1 0 3 642 645 62D 0 1 0 3 642 645 645 0 1 0 3 644 62D 645 0 1 0 3 644 62D 64A 0 1 0 3 644",
    "62D 649 0 2 0 3 644 62C 62C 0 2 0 3 644 62E 645 0 2 0 3 644 645 62D 0 1 0 3 645 62D 62C 0 1 0 3 645 62D 645 0 1",
    "0 3 645 62D 64A 0 1 0 3 645 62C 62D 0 1 0 3 645 62C 645 0 1 0 3 645 62E 62C 0 1 0 3 645 62E 645 2 1 0 3 645 62C",
    "62E 0 1 0 3 647 645 62C 0 1 0 3 647 645 645 0 1 0 3 646 62D 645 0 1 0 3 646 62D 649 0 2 0 3 646 62C 645 0 1 0 3",
    "646 62C 649 0 1 0 3 646 645 64A 0 1 0 3 646 645 649 0 2 0 3 64A 645 645 0 1 0 3 628 62E 64A 0 1 0 3 62A 62C 64A",
    "0 1 0 3 62A 62C 649 0 1 0 3 62A 62E 64A 0 1 0 3 62A 62E 649 0 1 0 3 62A 645 64A 0 1 0 3 62A 645 649 0 1 0 3 62C",
    "645 64A 0 1 0 3 62C 62D 649 0 1 0 3 62C 645 649 0 1 0 3 633 62E 649 0 1 0 3 635 62D 64A 0 1 0 3 634 62D 64A 0 1",
    "0 3 636 62D 64A 0 1 0 3 644 62C 64A 0 1 0 3 644 645 64A 0 1 0 3 64A 62D 64A 0 1 0 3 64A 62C 64A 0 1 0 3 64A 645",
    "64A 0 1 0 3 645 645 64A 0 1 0 3 642 645 64A 0 1 0 3 646 62D 64A 0 1 0 3 642 645 62D 0 1 0 3 644 62D 645 0 1 0 3",
    "639 645 64A 0 1 0 3 643 645 64A 0 1 0 3 646 62C 62D 0 1 0 3 645 62E 64A 0 1 0 3 644 62C 645 0 1 0 3 643 645 645",
    "0 1 0 3 644 62C 645 0 1 0 3 646 62C 62D 0 1 0 3 62C 62D 64A 0 1 0 3 62D 62C 64A 0 1 0 3 645 62C 64A 0 1 0 3 641",
    "645 64A 0 1 0 3 628 62D 64A 0 1 0 3 643 645 645 0 1 0 3 639 62C 645 0 1 0 3 635 645 645 0 1 0 3 633 62E 64A 0 1",
    "0 3 646 62C 64A 28 1 0 3 635 644 6D2 0 1 0 3 642 644 6D2 0 1 0 4 627 644 644 647 0 1 0 4 627 643 628 631 0 1 0 4",
    "645 62D 645 62F 0 1 0 4 635 644 639 645 0 1 0 4 631 633 648 644 0 1 0 4 639 644 64A 647 0 1 0 4 648 633 644 645",
    "0 1 0 3 635 644 649 0 1 0 12 635 644 649 20 627 644 644 647 20 639 644 64A 647 20 648 633 644 645 0 1 0 8 62C",
    "644 20 62C 644 627 644 647 0 1 0 4 631 6CC 627 644 3 10 0 0 0 1 0 1 2C 0 1 0 1 3001 1 2 1 3A 0 1 0 1 21 0 1 0 1",
    "3F 0 2 1 3016 18 1 0 1 2014 0 1 0 1 2013 0 2 0 1 5F 0 2 1 28 0 1 0 1 7B 0 1 0 1 7D 0 2 1 3014 0 2 1 3010 0 2 1",
    "300A 0 2 1 3008 0 4 1 300C 2 1 0 1 5B 0 1 0 1 5D 0 4 0 2 20 305 0 3 0 1 5F 0 1 0 1 2C 0 1 0 1 3001 2 1 0 1 3B 0",
    "1 0 1 3A 0 1 0 1 3F 0 1 0 1 21 0 1 0 1 2014 0 2 1 28 0 1 0 1 7B 0 1 0 1 7D 0 2 1 3014 0 1 0 1 23 0 1 0 1 26 0 2",
    "1 2A 0 1 0 1 2D 0 1 0 1 3C 0 1 0 1 3E 0 1 0 1 3D 1 1 0 1 5C 0 2 1 24 0 1 0 1 40 4 1 0 2 20 64B 0 1 0 2 640 64B 0",
    "1 0 2 20 64C 1 1 0 2 20 64D 1 1 0 2 20 64E 0 1 0 2 640 64E 0 1 0 2 20 64F 0 1 0 2 640 64F 0 1 0 2 20 650 0 1 0 2",
    "640 650 0 1 0 2 20 651 0 1 0 2 640 651 0 1 0 2 20 652 0 1 0 2 640 652 0 2 1 621 0 2 1 622 0 2 1 623 0 2 1 624 0",
    "2 1 625 0 3 0 1 626 0 2 0 1 627 0 4 0 1 628 0 2 0 1 629 0 4 0 1 62A 0 4 0 1 62B 0 4 0 1 62C 0 4 0 1 62D 0 4 0 1",
    "62E 0 2 0 1 62F 0 2 0 1 630 0 2 0 1 631 0 2 0 1 632 0 4 0 1 633 0 4 0 1 634 0 4 0 1 635 0 4 0 1 636 0 4 0 1 637",
    "0 4 0 1 638 0 4 0 1 639 0 4 0 1 63A 0 4 0 1 641 0 4 0 1 642 0 4 0 1 643 0 4 0 1 644 0 4 0 1 645 0 4 0 1 646 0 4",
    "0 1 647 0 2 0 1 648 0 2 0 1 649 0 4 0 1 64A 0 2 0 2 644 622 0 2 0 2 644 623 0 2 0 2 644 625 0 2 0 2 644 627 2 1",
    "0 0 1 20 1 21 0 1A 1 61 0 24 1 5B 0 2 1 2985 0 1 0 1 2E 0 2 1 300C 0 1 0 1 3001 0 1 0 1 30FB 0 1 0 1 30F2 0 1 0",
    "1 30A1 0 1 0 1 30A3 0 1 0 1 30A5 0 1 0 1 30A7 0 1 0 1 30A9 0 1 0 1 30E3 0 1 0 1 30E5 0 1 0 1 30E7 0 1 0 1 30C3 0",
    "1 0 1 30FC 0 1 0 1 30A2 0 1 0 1 30A4 0 1 0 1 30A6 0 1 0 1 30A8 0 2 1 30AA 0 1 0 1 30AD 0 1 0 1 30AF 0 1 0 1 30B1",
    "0 1 0 1 30B3 0 1 0 1 30B5 0 1 0 1 30B7 0 1 0 1 30B9 0 1 0 1 30BB 0 1 0 1 30BD 0 1 0 1 30BF 0 1 0 1 30C1 0 1 0 1",
    "30C4 0 1 0 1 30C6 0 1 0 1 30C8 0 6 1 30CA 0 1 0 1 30D2 0 1 0 1 30D5 0 1 0 1 30D8 0 1 0 1 30DB 0 5 1 30DE 0 1 0 1",
    "30E4 0 1 0 1 30E6 0 6 1 30E8 0 1 0 1 30EF 0 1 0 1 30F3 0 2 1 3099 0 1 0 0 0 2 1 1100 0 1 0 1 11AA 0 1 0 1 1102 0",
    "2 1 11AC 0 3 1 1103 0 6 1 11B0 0 1 0 1 111A 0 3 1 1106 0 1 0 1 1121 0 A 1 1109 3 6 1 1161 2 6 1 1167 2 6 1 116D",
    "2 3 1 1173 3 2 1 A2 0 1 0 1 AC 0 1 0 2 20 304 0 1 0 1 A6 0 1 0 1 A5 0 1 0 1 20A9 1 1 0 1 2502 0 4 1 2190 0 1 0 1",
    "25A0 0 1 0 1 25CB 411 28 1 10428 88 24 1 104D8 9C B 1 10597 1 F 1 105A3 1 7 1 105B3 1 2 1 105BB 1EB 2 1 2D0 0 1",
    "0 1 E6 0 1 0 1 299 0 1 0 1 253 1 1 0 1 2A3 0 1 0 1 AB66 0 1 0 1 2A5 0 1 0 1 2A4 0 2 1 256 0 1 0 1 1D91 0 1 0 1",
    "258 0 1 0 1 25E 0 1 0 1 2A9 0 1 0 1 264 0 1 0 1 262 0 1 0 1 260 0 1 0 1 29B 0 1 0 1 127 0 1 0 1 29C 0 1 0 1 267",
    "0 1 0 1 284 0 2 1 2AA 0 1 0 1 26C 0 1 0 1 1DF04 0 1 0 1 A78E 0 1 0 1 26E 0 1 0 1 1DF05 0 1 0 1 28E 0 1 0 1 1DF06",
    "0 1 0 1 F8 0 2 1 276 0 1 0 1 71 0 1 0 1 27A 0 1 0 1 1DF08 0 2 1 27D 0 1 0 1 280 0 1 0 1 2A8 0 1 0 1 2A6 0 1 0 1",
    "AB67 0 1 0 1 2A7 0 1 0 1 288 0 1 0 1 2C71 1 1 0 1 28F 0 2 1 2A1 0 1 0 1 298 0 3 1 1C0 0 1 0 1 1DF0A 0 1 0 1",
    "1DF1E 4C5 33 1 10CC0 BED 20 1 118C0 5580 20 1 16E60 4E40 4 0 0 14BA 1 0 2 1D157 1D165 0 1 0 2 1D158 1D165 0 1 0",
    "3 1D158 1D165 1D16E 0 1 0 3 1D158 1D165 1D16F 0 1 0 3 1D158 1D165 1D170 0 1 0 3 1D158 1D165 1D171 0 1 0 3 1D158",
    "1D165 1D172 E 8 0 0 40 1 0 2 1D1B9 1D165 0 1 0 2 1D1BA 1D165 0 1 0 3 1D1B9 1D165 1D16E 0 1 0 3 1D1BA 1D165 1D16E",
    "0 1 0 3 1D1B9 1D165 1D16F 0 1 0 3 1D1BA 1D165 1D16F 23F 1A 1 61 0 1A 1 61 0 1A 1 61 0 7 1 61 1 12 1 69 0 1A 1 61",
    "0 1A 1 61 0 2 2 61 0 1 0 1 64 2 1 0 1 67 2 2 1 6A 2 4 1 6E 1 8 1 73 0 4 1 61 1 2 2 66 0 6 1 69 1 B 1 70 0 1A 1",
    "61 0 1A 1 61 0 2 1 61 1 4 1 64 2 8 1 6A 1 7 1 73 1 1A 1 61 0 2 1 61 1 4 1 64 1 5 1 69 1 1 0 1 6F 3 7 1 73 1 1A 1",
    "61 0 1A 1 61 0 1A 1 61 0 1A 1 61 0 1A 1 61 0 1A 1 61 0 1A 1 61 0 1A 1 61 0 1A 1 61 0 1A 1 61 0 1A 1 61 0 1A 1 61",
    "0 1A 1 61 0 1 0 1 131 0 1 0 1 237 2 11 1 3B1 0 1 0 1 3B8 0 7 1 3C3 0 1 0 1 2207 0 11 1 3B1 0 2 0 1 3C3 0 6 1 3C4",
    "0 1 0 1 2202 0 1 0 1 3B5 0 1 0 1 3B8 0 1 0 1 3BA 0 1 0 1 3C6 0 1 0 1 3C1 0 1 0 1 3C0 0 11 1 3B1 0 1 0 1 3B8 0 7",
    "1 3C3 0 1 0 1 2207 0 11 1 3B1 0 2 0 1 3C3 0 6 1 3C4 0 1 0 1 2202 0 1 0 1 3B5 0 1 0 1 3B8 0 1 0 1 3BA 0 1 0 1 3C6",
    "0 1 0 1 3C1 0 1 0 1 3C0 0 11 1 3B1 0 1 0 1 3B8 0 7 1 3C3 0 1 0 1 2207 0 11 1 3B1 0 2 0 1 3C3 0 6 1 3C4 0 1 0 1",
    "2202 0 1 0 1 3B5 0 1 0 1 3B8 0 1 0 1 3BA 0 1 0 1 3C6 0 1 0 1 3C1 0 1 0 1 3C0 0 11 1 3B1 0 1 0 1 3B8 0 7 1 3C3 0",
    "1 0 1 2207 0 11 1 3B1 0 2 0 1 3C3 0 6 1 3C4 0 1 0 1 2202 0 1 0 1 3B5 0 1 0 1 3B8 0 1 0 1 3BA 0 1 0 1 3C6 0 1 0 1",
    "3C1 0 1 0 1 3C0 0 11 1 3B1 0 1 0 1 3B8 0 7 1 3C3 0 1 0 1 2207 0 11 1 3B1 0 2 0 1 3C3 0 6 1 3C4 0 1 0 1 2202 0 1",
    "0 1 3B5 0 1 0 1 3B8 0 1 0 1 3BA 0 1 0 1 3C6 0 1 0 1 3C1 0 1 0 1 3C0 0 2 0 1 3DD 2 A 1 30 0 A 1 30 0 A 1 30 0 A 1",
    "30 0 A 1 30 830 9 1 430 0 3 1 43A 0 B 1 43E 0 1 0 1 44B 0 2 1 44D 0 1 0 1 A689 0 1 0 1 4D9 0 1 0 1 456 0 1 0 1",
    "458 0 1 0 1 4E9 0 1 0 1 4AF 0 1 0 1 4CF 0 9 1 430 0 2 1 43A 0 2 1 43E 0 1 0 1 441 0 6 1 443 0 2 1 44A 0 1 0 1",
    "491 0 1 0 1 456 0 1 0 1 455 0 1 0 1 45F 0 1 0 1 4AB 0 1 0 1 A651 0 1 0 1 4B1 892 22 1 1E922 4DE 2 1 627 0 1 0 1",
    "62C 0 1 0 1 62F 1 1 0 1 648 0 1 0 1 632 0 1 0 1 62D 0 1 0 1 637 0 1 0 1 64A 0 4 1 643 0 1 0 1 633 0 1 0 1 639 0",
    "1 0 1 641 0 1 0 1 635 0 1 0 1 642 0 1 0 1 631 0 1 0 1 634 0 2 1 62A 0 1 0 1 62E 0 1 0 1 630 0 1 0 1 636 0 1 0 1",
    "638 0 1 0 1 63A 0 1 0 1 66E 0 1 0 1 6BA 0 1 0 1 6A1 0 1 0 1 66F 1 1 0 1 628 0 1 0 1 62C 1 1 0 1 647 2 1 0 1 62D",
    "1 1 0 1 64A 0 4 1 643 0 1 0 1 633 0 1 0 1 639 0 1 0 1 641 0 1 0 1 635 0 1 0 1 642 1 1 0 1 634 0 2 1 62A 0 1 0 1",
    "62E 1 1 0 1 636 1 1 0 1 63A 6 1 0 1 62C 4 1 0 1 62D 1 1 0 1 64A 1 2 2 644 0 1 0 1 633 0 1 0 1 639 1 1 0 1 635 0",
    "1 0 1 642 1 1 0 1 634 2 1 0 1 62E 1 1 0 1 636 1 1 0 1 63A 1 1 0 1 6BA 1 1 0 1 66F 1 1 0 1 628 0 1 0 1 62C 1 1 0",
    "1 647 2 1 0 1 62D 0 1 0 1 637 0 1 0 1 64A 0 2 2 643 0 1 0 1 646 0 1 0 1 633 0 1 0 1 639 0 1 0 1 641 0 1 0 1 635",
    "0 1 0 1 642 1 1 0 1 634 0 2 1 62A 0 1 0 1 62E 1 1 0 1 636 0 1 0 1 638 0 1 0 1 63A 0 1 0 1 66E 1 1 0 1 6A1 1 2 1",
    "627 0 1 0 1 62C 0 1 0 1 62F 0 2 1 647 0 1 0 1 632 0 1 0 1 62D 0 1 0 1 637 0 1 0 1 64A 1 3 1 644 0 1 0 1 633 0 1",
    "0 1 639 0 1 0 1 641 0 1 0 1 635 0 1 0 1 642 0 1 0 1 631 0 1 0 1 634 0 2 1 62A 0 1 0 1 62E 0 1 0 1 630 0 1 0 1",
    "636 0 1 0 1 638 0 1 0 1 63A 5 1 0 1 628 0 1 0 1 62C 0 1 0 1 62F 1 1 0 1 648 0 1 0 1 632 0 1 0 1 62D 0 1 0 1 637",
    "0 1 0 1 64A 1 3 1 644 0 1 0 1 633 0 1 0 1 639 0 1 0 1 641 0 1 0 1 635 0 1 0 1 642 0 1 0 1 631 0 1 0 1 634 0 2 1",
    "62A 0 1 0 1 62E 0 1 0 1 630 0 1 0 1 636 0 1 0 1 638 0 1 0 1 63A 245 1 0 2 30 2C 0 1 0 2 31 2C 0 1 0 2 32 2C 0 1",
    "0 2 33 2C 0 1 0 2 34 2C 0 1 0 2 35 2C 0 1 0 2 36 2C 0 1 0 2 37 2C 0 1 0 2 38 2C 0 1 0 2 39 2C 5 1 0 3 28 61 29 0",
    "1 0 3 28 62 29 0 1 0 3 28 63 29 0 1 0 3 28 64 29 0 1 0 3 28 65 29 0 1 0 3 28 66 29 0 1 0 3 28 67 29 0 1 0 3 28",
    "68 29 0 1 0 3 28 69 29 0 1 0 3 28 6A 29 0 1 0 3 28 6B 29 0 1 0 3 28 6C 29 0 1 0 3 28 6D 29 0 1 0 3 28 6E 29 0 1",
    "0 3 28 6F 29 0 1 0 3 28 70 29 0 1 0 3 28 71 29 0 1 0 3 28 72 29 0 1 0 3 28 73 29 0 1 0 3 28 74 29 0 1 0 3 28 75",
    "29 0 1 0 3 28 76 29 0 1 0 3 28 77 29 0 1 0 3 28 78 29 0 1 0 3 28 79 29 0 1 0 3 28 7A 29 0 1 0 3 3014 73 3015 0 1",
    "0 1 63 0 1 0 1 72 0 1 0 2 63 64 0 1 0 2 77 7A 1 1A 1 61 0 1 0 2 68 76 0 1 0 2 6D 76 0 1 0 2 73 64 0 1 0 2 73 73",
    "0 1 0 3 70 70 76 0 1 0 2 77 63 1A 1 0 2 6D 63 0 1 0 2 6D 64 0 1 0 2 6D 72 23 1 0 2 64 6A 6F 1 0 2 307B 304B 0 1",
    "0 2 30B3 30B3 0 1 0 1 30B5 D 1 0 1 624B 0 1 0 1 5B57 0 1 0 1 53CC 0 1 0 1 30C7 0 1 0 1 4E8C 0 1 0 1 591A 0 1 0 1",
    "89E3 0 1 0 1 5929 0 1 0 1 4EA4 0 1 0 1 6620 0 1 0 1 7121 0 1 0 1 6599 0 1 0 1 524D 0 1 0 1 5F8C 0 1 0 1 518D 0 1",
    "0 1 65B0 0 1 0 1 521D 0 1 0 1 7D42 0 1 0 1 751F 0 1 0 1 8CA9 0 1 0 1 58F0 0 1 0 1 5439 0 1 0 1 6F14 0 1 0 1 6295",
    "0 1 0 1 6355 0 1 0 1 4E00 0 1 0 1 4E09 0 1 0 1 904A 0 1 0 1 5DE6 0 1 0 1 4E2D 0 1 0 1 53F3 0 1 0 1 6307 0 1 0 1",
    "8D70 0 1 0 1 6253 0 1 0 1 7981 0 1 0 1 7A7A 0 1 0 1 5408 0 1 0 1 6E80 0 1 0 1 6709 0 1 0 1 6708 0 1 0 1 7533 0 1",
    "0 1 5272 0 1 0 1 55B6 0 1 0 1 914D 4 1 0 3 3014 672C 3015 0 1 0 3 3014 4E09 3015 0 1 0 3 3014 4E8C 3015 0 1 0 3",
    "3014 5B89 3015 0 1 0 3 3014 70B9 3015 0 1 0 3 3014 6253 3015 0 1 0 3 3014 76D7 3015 0 1 0 3 3014 52DD 3015 0 1 0",
    "3 3014 6557 3015 7 1 0 1 5F97 0 1 0 1 53EF 99E A 1 30 FC06 1 0 1 4E3D 0 1 0 1 4E38 0 1 0 1 4E41 0 1 0 1 20122 0",
    "1 0 1 4F60 0 1 0 1 4FAE 0 1 0 1 4FBB 0 1 0 1 5002 0 1 0 1 507A 0 1 0 1 5099 0 1 0 1 50E7 0 1 0 1 50CF 0 1 0 1",
    "349E 0 1 0 1 2063A 0 1 0 1 514D 0 1 0 1 5154 0 1 0 1 5164 0 1 0 1 5177 0 1 0 1 2051C 0 1 0 1 34B9 0 1 0 1 5167 0",
    "1 0 1 518D 0 1 0 1 2054B 0 1 0 1 5197 0 1 0 1 51A4 0 1 0 1 4ECC 0 1 0 1 51AC 0 1 0 1 51B5 0 1 0 1 291DF 0 1 0 1",
    "51F5 0 1 0 1 5203 0 1 0 1 34DF 0 1 0 1 523B 0 1 0 1 5246 0 1 0 1 5272 0 1 0 1 5277 0 1 0 1 3515 0 1 0 1 52C7 0 1",
    "0 1 52C9 0 1 0 1 52E4 0 1 0 1 52FA 0 2 1 5305 0 1 0 1 5317 0 1 0 1 5349 0 1 0 1 5351 0 1 0 1 535A 0 1 0 1 5373 0",
    "1 0 1 537D 0 3 0 1 537F 0 1 0 1 20A2C 0 1 0 1 7070 0 1 0 1 53CA 0 1 0 1 53DF 0 1 0 1 20B63 0 1 0 1 53EB 0 1 0 1",
    "53F1 0 1 0 1 5406 0 1 0 1 549E 0 1 0 1 5438 0 1 0 1 5448 0 1 0 1 5468 0 1 0 1 54A2 0 1 0 1 54F6 0 1 0 1 5510 0 1",
    "0 1 5553 0 1 0 1 5563 0 2 0 1 5584 0 1 0 1 5599 0 1 0 1 55AB 0 1 0 1 55B3 0 1 0 1 55C2 0 1 0 1 5716 0 1 0 1 5606",
    "0 1 0 1 5717 0 1 0 1 5651 0 1 0 1 5674 0 1 0 1 5207 0 1 0 1 58EE 0 1 0 1 57CE 0 1 0 1 57F4 0 1 0 1 580D 0 1 0 1",
    "578B 0 1 0 1 5832 0 1 0 1 5831 0 1 0 1 58AC 0 1 0 1 214E4 0 1 0 1 58F2 0 1 0 1 58F7 0 1 0 1 5906 0 1 0 1 591A 0",
    "1 0 1 5922 0 1 0 1 5962 0 1 0 1 216A8 0 1 0 1 216EA 0 1 0 1 59EC 0 1 0 1 5A1B 0 1 0 1 5A27 0 1 0 1 59D8 0 1 0 1",
    "5A66 0 1 0 1 36EE 0 1 0 1 36FC 0 1 0 1 5B08 0 2 0 1 5B3E 0 1 0 1 219C8 0 1 0 1 5BC3 0 1 0 1 5BD8 0 1 0 1 5BE7 0",
    "1 0 1 5BF3 0 1 0 1 21B18 0 1 0 1 5BFF 0 1 0 1 5C06 0 1 0 1 5F53 0 1 0 1 5C22 0 1 0 1 3781 0 1 0 1 5C60 0 1 0 1",
    "5C6E 0 1 0 1 5CC0 0 1 0 1 5C8D 0 1 0 1 21DE4 0 1 0 1 5D43 0 1 0 1 21DE6 0 1 0 1 5D6E 0 1 0 1 5D6B 0 1 0 1 5D7C 0",
    "2 1 5DE1 0 1 0 1 382F 0 1 0 1 5DFD 0 1 0 1 5E28 0 1 0 1 5E3D 0 1 0 1 5E69 0 1 0 1 3862 0 1 0 1 22183 0 1 0 1",
    "387C 0 1 0 1 5EB0 0 1 0 1 5EB3 0 1 0 1 5EB6 0 1 0 1 5ECA 0 1 0 1 2A392 0 1 0 1 5EFE 0 2 0 1 22331 0 1 0 1 8201 0",
    "2 0 1 5F22 0 1 0 1 38C7 0 1 0 1 232B8 0 1 0 1 261DA 0 1 0 1 5F62 0 1 0 1 5F6B 0 1 0 1 38E3 0 1 0 1 5F9A 0 1 0 1",
    "5FCD 0 1 0 1 5FD7 0 1 0 1 5FF9 0 1 0 1 6081 0 1 0 1 393A 0 1 0 1 391C 0 1 0 1 6094 0 1 0 1 226D4 0 1 0 1 60C7 0",
    "1 0 1 6148 0 1 0 1 614C 0 1 0 1 614E 0 1 0 1 614C 0 1 0 1 617A 0 1 0 1 618E 0 1 0 1 61B2 0 1 0 1 61A4 0 1 0 1",
    "61AF 0 1 0 1 61DE 0 1 0 1 61F2 0 1 0 1 61F6 0 1 0 1 6210 0 1 0 1 621B 0 1 0 1 625D 0 1 0 1 62B1 0 1 0 1 62D4 0 1",
    "0 1 6350 0 1 0 1 22B0C 0 1 0 1 633D 0 1 0 1 62FC 0 1 0 1 6368 0 1 0 1 6383 0 1 0 1 63E4 0 1 0 1 22BF1 0 1 0 1",
    "6422 0 1 0 1 63C5 0 1 0 1 63A9 0 1 0 1 3A2E 0 1 0 1 6469 0 1 0 1 647E 0 1 0 1 649D 0 1 0 1 6477 0 1 0 1 3A6C 0 1",
    "0 1 654F 0 1 0 1 656C 0 1 0 1 2300A 0 1 0 1 65E3 0 1 0 1 66F8 0 1 0 1 6649 0 1 0 1 3B19 0 1 0 1 6691 0 1 0 1",
    "3B08 0 1 0 1 3AE4 0 1 0 1 5192 0 1 0 1 5195 0 1 0 1 6700 0 1 0 1 669C 0 1 0 1 80AD 0 1 0 1 43D9 0 1 0 1 6717 0 1",
    "0 1 671B 0 1 0 1 6721 0 1 0 1 675E 0 1 0 1 6753 0 1 0 1 233C3 0 1 0 1 3B49 0 1 0 1 67FA 0 1 0 1 6785 0 1 0 1",
    "6852 0 1 0 1 6885 0 1 0 1 2346D 0 1 0 1 688E 0 1 0 1 681F 0 1 0 1 6914 0 1 0 1 3B9D 0 1 0 1 6942 0 1 0 1 69A3 0",
    "1 0 1 69EA 0 1 0 1 6AA8 0 1 0 1 236A3 0 1 0 1 6ADB 0 1 0 1 3C18 0 1 0 1 6B21 0 1 0 1 238A7 0 1 0 1 6B54 0 1 0 1",
    "3C4E 0 1 0 1 6B72 0 1 0 1 6B9F 0 2 1 6BBA 0 1 0 1 23A8D 0 1 0 1 21D0B 0 1 0 1 23AFA 0 1 0 1 6C4E 0 1 0 1 23CBC 0",
    "1 0 1 6CBF 0 1 0 1 6CCD 0 1 0 1 6C67 0 1 0 1 6D16 0 1 0 1 6D3E 0 1 0 1 6D77 0 1 0 1 6D41 0 1 0 1 6D69 0 1 0 1",
    "6D78 0 1 0 1 6D85 0 1 0 1 23D1E 0 1 0 1 6D34 0 1 0 1 6E2F 0 1 0 1 6E6E 0 1 0 1 3D33 0 1 0 1 6ECB 0 1 0 1 6EC7 0",
    "1 0 1 23ED1 0 1 0 1 6DF9 0 1 0 1 6F6E 0 1 0 1 23F5E 0 1 0 1 23F8E 0 1 0 1 6FC6 0 1 0 1 7039 0 1 0 1 701E 0 1 0 1",
    "701B 0 1 0 1 3D96 0 1 0 1 704A 0 1 0 1 707D 0 1 0 1 7077 0 1 0 1 70AD 0 1 0 1 20525 0 1 0 1 7145 0 1 0 1 24263 0",
    "1 0 1 719C 0 1 0 1 243AB 0 1 0 1 7228 0 1 0 1 7235 0 1 0 1 7250 0 1 0 1 24608 0 1 0 1 7280 0 1 0 1 7295 0 1 0 1",
    "24735 0 1 0 1 24814 0 1 0 1 737A 0 1 0 1 738B 0 1 0 1 3EAC 0 1 0 1 73A5 0 2 0 1 3EB8 0 1 0 1 7447 0 1 0 1 745C 0",
    "1 0 1 7471 0 1 0 1 7485 0 1 0 1 74CA 0 1 0 1 3F1B 0 1 0 1 7524 0 1 0 1 24C36 0 1 0 1 753E 0 1 0 1 24C92 0 1 0 1",
    "7570 0 1 0 1 2219F 0 1 0 1 7610 0 1 0 1 24FA1 0 1 0 1 24FB8 0 1 0 1 25044 0 1 0 1 3FFC 0 1 0 1 4008 0 1 0 1 76F4",
    "0 1 0 1 250F3 0 1 0 1 250F2 0 1 0 1 25119 0 1 0 1 25133 0 2 1 771E 0 1 0 1 771F 0 1 0 1 774A 0 1 0 1 4039 0 1 0",
    "1 778B 0 1 0 1 4046 0 1 0 1 4096 0 1 0 1 2541D 0 1 0 1 784E 0 1 0 1 788C 0 1 0 1 78CC 0 1 0 1 40E3 0 1 0 1 25626",
    "0 1 0 1 7956 0 1 0 1 2569A 0 1 0 1 256C5 0 1 0 1 798F 0 1 0 1 79EB 0 1 0 1 412F 0 1 0 1 7A40 0 1 0 1 7A4A 0 1 0",
    "1 7A4F 0 1 0 1 2597C 0 2 0 1 25AA7 0 1 0 1 7AEE 0 1 0 1 4202 0 1 0 1 25BAB 0 1 0 1 7BC6 0 1 0 1 7BC9 0 1 0 1",
    "4227 0 1 0 1 25C80 0 1 0 1 7CD2 0 1 0 1 42A0 0 1 0 1 7CE8 0 1 0 1 7CE3 0 1 0 1 7D00 0 1 0 1 25F86 0 1 0 1 7D63 0",
    "1 0 1 4301 0 1 0 1 7DC7 0 1 0 1 7E02 0 1 0 1 7E45 0 1 0 1 4334 0 1 0 1 26228 0 1 0 1 26247 0 1 0 1 4359 0 1 0 1",
    "262D9 0 1 0 1 7F7A 0 1 0 1 2633E 0 1 0 1 7F95 0 1 0 1 7FFA 0 1 0 1 8005 0 1 0 1 264DA 0 1 0 1 26523 0 1 0 1 8060",
    "0 1 0 1 265A8 0 1 0 1 8070 0 1 0 1 2335F 0 1 0 1 43D5 0 1 0 1 80B2 0 1 0 1 8103 0 1 0 1 440B 0 1 0 1 813E 0 1 0",
    "1 5AB5 0 1 0 1 267A7 0 1 0 1 267B5 0 1 0 1 23393 0 1 0 1 2339C 0 1 0 1 8201 0 1 0 1 8204 0 1 0 1 8F9E 0 1 0 1",
    "446B 0 1 0 1 8291 0 1 0 1 828B 0 1 0 1 829D 0 1 0 1 52B3 0 1 0 1 82B1 0 1 0 1 82B3 0 1 0 1 82BD 0 1 0 1 82E6 0 1",
    "0 1 26B3C 0 1 0 1 82E5 0 1 0 1 831D 0 1 0 1 8363 0 1 0 1 83AD 0 1 0 1 8323 0 1 0 1 83BD 0 1 0 1 83E7 0 1 0 1",
    "8457 0 1 0 1 8353 0 1 0 1 83CA 0 1 0 1 83CC 0 1 0 1 83DC 0 1 0 1 26C36 0 1 0 1 26D6B 0 1 0 1 26CD5 0 1 0 1 452B",
    "0 1 0 1 84F1 0 1 0 1 84F3 0 1 0 1 8516 0 1 0 1 273CA 0 1 0 1 8564 0 1 0 1 26F2C 0 1 0 1 455D 0 1 0 1 4561 0 1 0",
    "1 26FB1 0 1 0 1 270D2 0 1 0 1 456B 0 1 0 1 8650 0 1 0 1 865C 0 1 0 1 8667 0 1 0 1 8669 0 1 0 1 86A9 0 1 0 1 8688",
    "0 1 0 1 870E 0 1 0 1 86E2 0 1 0 1 8779 0 1 0 1 8728 0 1 0 1 876B 0 1 0 1 8786 0 1 0 1 45D7 0 1 0 1 87E1 0 1 0 1",
    "8801 0 1 0 1 45F9 0 1 0 1 8860 0 1 0 1 8863 0 1 0 1 27667 0 1 0 1 88D7 0 1 0 1 88DE 0 1 0 1 4635 0 1 0 1 88FA 0",
    "1 0 1 34BB 0 1 0 1 278AE 0 1 0 1 27966 0 1 0 1 46BE 0 1 0 1 46C7 0 1 0 1 8AA0 0 1 0 1 8AED 0 1 0 1 8B8A 0 1 0 1",
    "8C55 0 1 0 1 27CA8 0 1 0 1 8CAB 0 1 0 1 8CC1 0 1 0 1 8D1B 0 1 0 1 8D77 0 1 0 1 27F2F 0 1 0 1 20804 0 1 0 1 8DCB",
    "0 1 0 1 8DBC 0 1 0 1 8DF0 0 1 0 1 208DE 0 1 0 1 8ED4 0 1 0 1 8F38 0 1 0 1 285D2 0 1 0 1 285ED 0 1 0 1 9094 0 1 0",
    "1 90F1 0 1 0 1 9111 0 1 0 1 2872E 0 1 0 1 911B 0 1 0 1 9238 0 2 1 92D7 0 1 0 1 927C 0 1 0 1 93F9 0 1 0 1 9415 0",
    "1 0 1 28BFA 0 1 0 1 958B 0 1 0 1 4995 0 1 0 1 95B7 0 1 0 1 28D77 0 1 0 1 49E6 0 1 0 1 96C3 0 1 0 1 5DB2 0 1 0 1",
    "9723 0 1 0 1 29145 0 1 0 1 2921A 0 1 0 1 4A6E 0 1 0 1 4A76 0 1 0 1 97E0 0 1 0 1 2940A 0 1 0 1 4AB2 0 1 0 1 29496",
    "0 2 0 1 980B 0 1 0 1 9829 0 1 0 1 295B6 0 1 0 1 98E2 0 1 0 1 4B33 0 1 0 1 9929 0 1 0 1 99A7 0 1 0 1 99C2 0 1 0 1",
    "99FE 0 1 0 1 4BCE 0 1 0 1 29B30 0 1 0 1 9B12 0 1 0 1 9C40 0 1 0 1 9CFD 0 1 0 1 4CCE 0 1 0 1 4CED 0 1 0 1 9D67 0",
    "1 0 1 2A0CE 0 1 0 1 4CF8 0 1 0 1 2A105 0 1 0 1 2A20E 0 1 0 1 2A291 0 1 0 1 9EBB 0 1 0 1 4D56 0 1 0 1 9EF9 0 1 0",
    "1 9EFE 0 1 0 1 9F05 0 1 0 1 9F0F 0 1 0 1 9F16 0 1 0 1 9F3B 0 1 0 1 2A600 B06E2 F0 0 0"]

/-- The runs of a written mapping. -/
def mappingOf (start : Nat) : List Nat → List (Run Target)
  | skip :: count :: 0 :: length :: rest =>
    ⟨start + skip, count, .text ((rest.take length).map Char.ofNat)⟩ ::
      mappingOf (start + skip + count) (rest.drop length)
  | skip :: count :: step :: first :: rest =>
    let span := (count - 1) * step + 1
    ⟨start + skip, span, .shifted step first⟩ :: mappingOf (start + skip + span) rest
  | _ => []
termination_by numbers => numbers.length
decreasing_by
  all_goals simp only [List.length_cons, List.length_drop]; omega

def mappingRuns : Array (Run Target) := (mappingOf 0 (Run.numbers mappingLines)).toArray

def mapped (c : Char) : Text :=
  match Run.find? mappingRuns c.toNat with
  | none => [c]
  | some run =>
    match run.value with
    | .text t => t
    | .shifted step first =>
      let distance := c.toNat - run.first
      if distance % step = 0 then [Char.ofNat (first + distance)] else [c]

end ApiLinks.Domain
