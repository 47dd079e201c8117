import ApiLinks.Domain.Run
import ApiLinks.Text.Basic

/-!
# Composed texts

The same writing can be one character or a letter with marks behind it. A text is composed by taking every
character apart, putting the marks of a letter into the order of their classes, and joining again what has a
character of its own. Only characters that a label can hold are listed.
-/

namespace ApiLinks.Domain

/-- The classes of marks, by threes. -/
def classLines : List String :=
  [
    "300 15 E6 0 1 E8 0 4 DC 0 1 E8 0 1 D8 0 5 DC 0 2 CA 0 4 DC 0 2 CA 0 B DC 0 5 1 0 4 DC 0 A E6 0 3 DC 0 3 E6 0 2",
    "DC 1 3 E6 0 4 DC 0 1 E6 0 1 E8 0 2 DC 0 1 E6 0 1 E9 0 2 EA 0 1 E9 0 2 EA 0 1 E9 0 D E6 113 5 E6 109 1 DC 0 4 E6",
    "0 1 DC 0 3 E6 0 1 DE 0 1 DC 0 6 E6 0 6 DC 0 2 E6 0 1 DC 0 2 E6 0 1 DE 0 1 E4 0 1 E6 0 1 A 0 1 B 0 1 C 0 1 D 0 1",
    "E 0 1 F 0 1 10 0 1 11 0 1 12 0 2 13 0 1 14 0 1 15 0 1 16 1 1 17 1 1 18 0 1 19 1 1 E6 0 1 DC 1 1 12 48 8 E6 0 1",
    "1E 0 1 1F 0 1 20 30 1 1B 0 1 1C 0 1 1D 0 1 1E 0 1 1F 0 1 20 0 1 21 0 1 22 0 2 E6 0 2 DC 0 5 E6 0 1 DC 0 2 E6 0 1",
    "DC 10 1 23 65 7 E6 2 4 E6 0 1 DC 0 1 E6 2 2 E6 1 1 DC 0 2 E6 0 1 DC 23 1 24 1E 1 E6 0 1 DC 0 2 E6 0 1 DC 0 2 E6",
    "0 3 DC 0 1 E6 0 2 DC 0 1 E6 0 1 DC 0 3 E6 0 1 DC 0 1 E6 0 1 DC 0 1 E6 0 1 DC 0 1 E6 0 1 DC 0 2 E6 A0 7 E6 0 1 DC",
    "0 1 E6 9 1 DC 18 4 E6 1 9 E6 1 3 E6 1 5 E6 2B 3 DC 3C 1 E6 0 3 DC 0 4 E6 2A 5 E6 0 5 DC 0 E E6 1 1 DC 0 2 E6 0 1",
    "DC 0 2 E6 0 1 DC 0 3 E6 0 3 DC 0 1 1B 0 1 1C 0 1 1D 0 3 E6 0 1 DC 0 2 E6 0 2 DC 0 5 E6 3C 1 7 10 1 9 3 1 E6 0 1",
    "DC 0 2 E6 67 1 7 10 1 9 30 1 E6 3D 1 7 10 1 9 6E 1 7 10 1 9 6E 1 7 10 1 9 7F 1 9 6E 1 7 10 1 9 7 1 54 0 1 5B 65",
    "1 7 10 1 9 6D 2 9 10 1 9 7C 1 9 6D 2 67 0 1 9 D 4 6B 6C 2 76 0 1 9 D 4 7A 4C 2 DC 1B 1 DC 1 1 DC 1 1 D8 37 1 81",
    "0 1 82 1 1 84 5 4 82 2 1 82 1 2 E6 0 1 9 1 2 E6 3E 1 DC 70 1 7 1 2 9 52 1 DC 2CF 3 E6 3B4 2 9 1E 1 9 9D 1 9 A 1",
    "E6 CB 1 E4 8F 1 DE 0 1 E6 0 1 DC DB 1 E6 0 1 DC 47 1 9 14 8 E6 2 1 DC 30 5 E6 0 6 DC 0 2 E6 0 1 DC 1 2 DC 0 2 E6",
    "0 2 DC 0 5 E6 0 1 DC 0 4 E6 65 1 7 F 1 9 26 1 E6 0 1 DC 0 7 E6 36 2 9 3A 1 7 B 2 9 43 1 7 98 3 E6 1 1 1 0 5 DC 0",
    "2 E6 0 4 DC 0 1 E6 1 7 1 4 1 DC 6 1 E6 3 2 E6 C6 2 E6 0 1 DC 0 7 E6 0 1 DC 0 2 E6 0 1 EA 0 1 D6 0 1 DC 0 1 CA 0",
    "25 E6 0 1 E8 0 2 E4 0 1 DC 0 1 DA 0 1 E6 0 1 E9 0 1 DC 0 1 E6 0 1 DC 2D0 2 E6 0 2 1 0 4 E6 0 3 1 0 2 E6 4 1 E6 3",
    "2 1 0 1 E6 0 1 DC 0 1 E6 0 2 1 0 4 DC 0 1 E6 BFE 3 E6 8D 1 9 60 20 E6 22A 1 DA 0 1 E4 0 1 E8 0 1 DE 0 2 E0 69 2",
    "8 75D4 1 E6 4 A E6 20 2 E6 50 2 E6 114 1 9 25 1 9 97 1 9 1B 12 E6 39 3 DC 25 1 9 5F 1 7 C 1 9 EF 1 E6 1 2 E6 0 1",
    "DC 2 2 E6 5 2 E6 1 1 E6 34 1 9 F6 1 9 4F30 1 1A 301 7 E6 0 7 DC 0 2 E6 3CD 1 DC E2 1 DC 95 5 E6 692 1 DC 1 1 E6",
    "28 1 E6 0 1 1 0 1 DC 4 1 9 A5 1 E6 0 1 DC 23D 4 E6 183 2 E6 50 3 DC 46 2 DC 0 3 E6 0 1 DC 0 1 E6 0 4 DC 31 1 E6",
    "0 1 DC 0 1 E6 0 1 DC C0 1 9 29 1 9 E 1 9 39 1 9 0 1 7 45 3 E6 30 2 9 3E 1 7 4C 1 9 9 1 7 6A 1 9 0 1 7 B2 1 7 0 1",
    "9 50 2 7 10 1 9 18 F E6 CD 1 9 3 1 7 17 1 E6 63 1 9 0 1 7 FB 1 9 0 1 7 7E 1 9 76 1 9 0 1 7 73 1 9 10D 1 9 0 1 7",
    "102 2 9 4 1 7 9C 1 9 53 1 9 12 1 9 51 1 9 1A5 1 9 102 1 7 1 2 9 51 1 9 1A9 2 9 4BAD 5 1 3B 7 E6 4B9 2 6 4CAC 1 1",
    "14C6 2 D8 0 3 1 3 1 E2 0 5 D8 8 8 DC 2 5 E6 0 2 DC 1E 4 E6 94 3 E6 DBB 90 E6 A0 7 E6 177 1 E6 3D 4 E6 1FC 2 E8 0",
    "1 DC 0 1 E6 3E0 7 DC 6D 6 E6 0 1 7"]

def classRuns : Array (Run Nat) := (Run.ofTriples 0 (Run.numbers classLines)).toArray

/-- The class of a mark; letters have class zero. -/
def markClass (c : Char) : Nat := Run.valueOf classRuns c

/-- A letter, a mark and the character for both, by threes. -/
def compositeLines : List String :=
  [
    "3C 338 226E 3D 338 2260 3E 338 226F 61 300 E0 61 301 E1 61 302 E2 61 303 E3 61 304 101 61 306 103 61 307 227 61",
    "308 E4 61 309 1EA3 61 30A E5 61 30C 1CE 61 30F 201 61 311 203 61 323 1EA1 61 325 1E01 61 328 105 62 307 1E03 62",
    "323 1E05 62 331 1E07 63 301 107 63 302 109 63 307 10B 63 30C 10D 63 327 E7 64 307 1E0B 64 30C 10F 64 323 1E0D 64",
    "327 1E11 64 32D 1E13 64 331 1E0F 65 300 E8 65 301 E9 65 302 EA 65 303 1EBD 65 304 113 65 306 115 65 307 117 65",
    "308 EB 65 309 1EBB 65 30C 11B 65 30F 205 65 311 207 65 323 1EB9 65 327 229 65 328 119 65 32D 1E19 65 330 1E1B 66",
    "307 1E1F 67 301 1F5 67 302 11D 67 304 1E21 67 306 11F 67 307 121 67 30C 1E7 67 327 123 68 302 125 68 307 1E23 68",
    "308 1E27 68 30C 21F 68 323 1E25 68 327 1E29 68 32E 1E2B 68 331 1E96 69 300 EC 69 301 ED 69 302 EE 69 303 129 69",
    "304 12B 69 306 12D 69 308 EF 69 309 1EC9 69 30C 1D0 69 30F 209 69 311 20B 69 323 1ECB 69 328 12F 69 330 1E2D 6A",
    "302 135 6A 30C 1F0 6B 301 1E31 6B 30C 1E9 6B 323 1E33 6B 327 137 6B 331 1E35 6C 301 13A 6C 30C 13E 6C 323 1E37",
    "6C 327 13C 6C 32D 1E3D 6C 331 1E3B 6D 301 1E3F 6D 307 1E41 6D 323 1E43 6E 300 1F9 6E 301 144 6E 303 F1 6E 307",
    "1E45 6E 30C 148 6E 323 1E47 6E 327 146 6E 32D 1E4B 6E 331 1E49 6F 300 F2 6F 301 F3 6F 302 F4 6F 303 F5 6F 304",
    "14D 6F 306 14F 6F 307 22F 6F 308 F6 6F 309 1ECF 6F 30B 151 6F 30C 1D2 6F 30F 20D 6F 311 20F 6F 31B 1A1 6F 323",
    "1ECD 6F 328 1EB 70 301 1E55 70 307 1E57 72 301 155 72 307 1E59 72 30C 159 72 30F 211 72 311 213 72 323 1E5B 72",
    "327 157 72 331 1E5F 73 301 15B 73 302 15D 73 307 1E61 73 30C 161 73 323 1E63 73 326 219 73 327 15F 74 307 1E6B",
    "74 308 1E97 74 30C 165 74 323 1E6D 74 326 21B 74 327 163 74 32D 1E71 74 331 1E6F 75 300 F9 75 301 FA 75 302 FB",
    "75 303 169 75 304 16B 75 306 16D 75 308 FC 75 309 1EE7 75 30A 16F 75 30B 171 75 30C 1D4 75 30F 215 75 311 217 75",
    "31B 1B0 75 323 1EE5 75 324 1E73 75 328 173 75 32D 1E77 75 330 1E75 76 303 1E7D 76 323 1E7F 77 300 1E81 77 301",
    "1E83 77 302 175 77 307 1E87 77 308 1E85 77 30A 1E98 77 323 1E89 78 307 1E8B 78 308 1E8D 79 300 1EF3 79 301 FD 79",
    "302 177 79 303 1EF9 79 304 233 79 307 1E8F 79 308 FF 79 309 1EF7 79 30A 1E99 79 323 1EF5 7A 301 17A 7A 302 1E91",
    "7A 307 17C 7A 30C 17E 7A 323 1E93 7A 331 1E95 E2 300 1EA7 E2 301 1EA5 E2 303 1EAB E2 309 1EA9 E4 304 1DF E5 301",
    "1FB E6 301 1FD E6 304 1E3 E7 301 1E09 EA 300 1EC1 EA 301 1EBF EA 303 1EC5 EA 309 1EC3 EF 301 1E2F F4 300 1ED3 F4",
    "301 1ED1 F4 303 1ED7 F4 309 1ED5 F5 301 1E4D F5 304 22D F5 308 1E4F F6 304 22B F8 301 1FF FC 300 1DC FC 301 1D8",
    "FC 304 1D6 FC 30C 1DA 103 300 1EB1 103 301 1EAF 103 303 1EB5 103 309 1EB3 113 300 1E15 113 301 1E17 14D 300 1E51",
    "14D 301 1E53 15B 307 1E65 161 307 1E67 169 301 1E79 16B 308 1E7B 1A1 300 1EDD 1A1 301 1EDB 1A1 303 1EE1 1A1 309",
    "1EDF 1A1 323 1EE3 1B0 300 1EEB 1B0 301 1EE9 1B0 303 1EEF 1B0 309 1EED 1B0 323 1EF1 1EB 304 1ED 227 304 1E1 229",
    "306 1E1D 22F 304 231 292 30C 1EF 3B1 300 1F70 3B1 301 3AC 3B1 304 1FB1 3B1 306 1FB0 3B1 313 1F00 3B1 314 1F01",
    "3B1 342 1FB6 3B5 300 1F72 3B5 301 3AD 3B5 313 1F10 3B5 314 1F11 3B7 300 1F74 3B7 301 3AE 3B7 313 1F20 3B7 314",
    "1F21 3B7 342 1FC6 3B9 300 1F76 3B9 301 3AF 3B9 304 1FD1 3B9 306 1FD0 3B9 308 3CA 3B9 313 1F30 3B9 314 1F31 3B9",
    "342 1FD6 3BF 300 1F78 3BF 301 3CC 3BF 313 1F40 3BF 314 1F41 3C1 313 1FE4 3C1 314 1FE5 3C5 300 1F7A 3C5 301 3CD",
    "3C5 304 1FE1 3C5 306 1FE0 3C5 308 3CB 3C5 313 1F50 3C5 314 1F51 3C5 342 1FE6 3C9 300 1F7C 3C9 301 3CE 3C9 313",
    "1F60 3C9 314 1F61 3C9 342 1FF6 3CA 300 1FD2 3CA 301 390 3CA 342 1FD7 3CB 300 1FE2 3CB 301 3B0 3CB 342 1FE7 430",
    "306 4D1 430 308 4D3 433 301 453 435 300 450 435 306 4D7 435 308 451 436 306 4C2 436 308 4DD 437 308 4DF 438 300",
    "45D 438 304 4E3 438 306 439 438 308 4E5 43A 301 45C 43E 308 4E7 443 304 4EF 443 306 45E 443 308 4F1 443 30B 4F3",
    "447 308 4F5 44B 308 4F9 44D 308 4ED 456 308 457 475 30F 477 4D9 308 4DB 4E9 308 4EB 627 653 622 627 654 623 627",
    "655 625 648 654 624 64A 654 626 6C1 654 6C2 6D2 654 6D3 6D5 654 6C0 928 93C 929 930 93C 931 933 93C 934 9C7 9BE",
    "9CB 9C7 9D7 9CC B47 B3E B4B B47 B56 B48 B47 B57 B4C B92 BD7 B94 BC6 BBE BCA BC6 BD7 BCC BC7 BBE BCB C46 C56 C48",
    "CBF CD5 CC0 CC6 CC2 CCA CC6 CD5 CC7 CC6 CD6 CC8 CCA CD5 CCB D46 D3E D4A D46 D57 D4C D47 D3E D4B DD9 DCA DDA DD9",
    "DCF DDC DD9 DDF DDE DDC DCA DDD 1025 102E 1026 1B05 1B35 1B06 1B07 1B35 1B08 1B09 1B35 1B0A 1B0B 1B35 1B0C 1B0D",
    "1B35 1B0E 1B11 1B35 1B12 1B3A 1B35 1B3B 1B3C 1B35 1B3D 1B3E 1B35 1B40 1B3F 1B35 1B41 1B42 1B35 1B43 1E37 304",
    "1E39 1E5B 304 1E5D 1E63 307 1E69 1EA1 302 1EAD 1EA1 306 1EB7 1EB9 302 1EC7 1ECD 302 1ED9 1F00 300 1F02 1F00 301",
    "1F04 1F00 342 1F06 1F01 300 1F03 1F01 301 1F05 1F01 342 1F07 1F10 300 1F12 1F10 301 1F14 1F11 300 1F13 1F11 301",
    "1F15 1F20 300 1F22 1F20 301 1F24 1F20 342 1F26 1F21 300 1F23 1F21 301 1F25 1F21 342 1F27 1F30 300 1F32 1F30 301",
    "1F34 1F30 342 1F36 1F31 300 1F33 1F31 301 1F35 1F31 342 1F37 1F40 300 1F42 1F40 301 1F44 1F41 300 1F43 1F41 301",
    "1F45 1F50 300 1F52 1F50 301 1F54 1F50 342 1F56 1F51 300 1F53 1F51 301 1F55 1F51 342 1F57 1F60 300 1F62 1F60 301",
    "1F64 1F60 342 1F66 1F61 300 1F63 1F61 301 1F65 1F61 342 1F67 2190 338 219A 2192 338 219B 2194 338 21AE 21D0 338",
    "21CD 21D2 338 21CF 21D4 338 21CE 2203 338 2204 2208 338 2209 220B 338 220C 2223 338 2224 2225 338 2226 223C 338",
    "2241 2243 338 2244 2245 338 2247 2248 338 2249 224D 338 226D 2261 338 2262 2264 338 2270 2265 338 2271 2272 338",
    "2274 2273 338 2275 2276 338 2278 2277 338 2279 227A 338 2280 227B 338 2281 227C 338 22E0 227D 338 22E1 2282 338",
    "2284 2283 338 2285 2286 338 2288 2287 338 2289 2291 338 22E2 2292 338 22E3 22A2 338 22AC 22A8 338 22AD 22A9 338",
    "22AE 22AB 338 22AF 22B2 338 22EA 22B3 338 22EB 22B4 338 22EC 22B5 338 22ED 3046 3099 3094 304B 3099 304C 304D",
    "3099 304E 304F 3099 3050 3051 3099 3052 3053 3099 3054 3055 3099 3056 3057 3099 3058 3059 3099 305A 305B 3099",
    "305C 305D 3099 305E 305F 3099 3060 3061 3099 3062 3064 3099 3065 3066 3099 3067 3068 3099 3069 306F 3099 3070",
    "306F 309A 3071 3072 3099 3073 3072 309A 3074 3075 3099 3076 3075 309A 3077 3078 3099 3079 3078 309A 307A 307B",
    "3099 307C 307B 309A 307D 309D 3099 309E 30A6 3099 30F4 30AB 3099 30AC 30AD 3099 30AE 30AF 3099 30B0 30B1 3099",
    "30B2 30B3 3099 30B4 30B5 3099 30B6 30B7 3099 30B8 30B9 3099 30BA 30BB 3099 30BC 30BD 3099 30BE 30BF 3099 30C0",
    "30C1 3099 30C2 30C4 3099 30C5 30C6 3099 30C7 30C8 3099 30C9 30CF 3099 30D0 30CF 309A 30D1 30D2 3099 30D3 30D2",
    "309A 30D4 30D5 3099 30D6 30D5 309A 30D7 30D8 3099 30D9 30D8 309A 30DA 30DB 3099 30DC 30DB 309A 30DD 30EF 3099",
    "30F7 30F0 3099 30F8 30F1 3099 30F9 30F2 3099 30FA 30FD 3099 30FE 11099 110BA 1109A 1109B 110BA 1109C 110A5 110BA",
    "110AB 11131 11127 1112E 11132 11127 1112F 11347 1133E 1134B 11347 11357 1134C 114B9 114B0 114BC 114B9 114BA",
    "114BB 114B9 114BD 114BE 115B8 115AF 115BA 115B9 115AF 115BB 11935 11930 11938"]

/-- A character that stands for two. -/
structure Composite where
  first : Nat
  second : Nat
  whole : Nat

/-- The composites of numbers by threes. -/
def compositesOf : List Nat → List Composite
  | first :: second :: whole :: rest => ⟨first, second, whole⟩ :: compositesOf rest
  | _ => []

def composites : List Composite := compositesOf (Run.numbers compositeLines)

/-! ### Syllables

The syllables of Korean are not listed, since they follow from the places of their parts: nineteen initials,
twenty-one vowels and twenty-seven finals, the last of which may be missing. -/

namespace Syllable

def base : Nat := 0xAC00

def initials : Nat := 0x1100

def vowels : Nat := 0x1161

/-- The place before the first final. -/
def finals : Nat := 0x11A7

def initialCount : Nat := 19

def vowelCount : Nat := 21

/-- The number of finals, a missing one included. -/
def finalCount : Nat := 28

def parts? (n : Nat) : Option (List Nat) :=
  let place := n - base
  if base ≤ n ∧ place < initialCount * vowelCount * finalCount then
    let final := place % finalCount
    let initial := initials + place / (vowelCount * finalCount)
    let vowel := vowels + place / finalCount % vowelCount
    some (initial :: vowel :: if final = 0 then [] else [finals + final])
  else none

/-- The syllable of an initial and a vowel, or of a syllable without a final and a final. -/
def join? (m n : Nat) : Option Nat :=
  if initials ≤ m ∧ m < initials + initialCount ∧ vowels ≤ n ∧ n < vowels + vowelCount then
    some (base + ((m - initials) * vowelCount + (n - vowels)) * finalCount)
  else if base ≤ m ∧ m < base + initialCount * vowelCount * finalCount ∧ (m - base) % finalCount = 0 ∧
      finals < n ∧ n < finals + finalCount then
    some (m + (n - finals))
  else none

end Syllable

/-! ### Taking apart and joining -/

/-- Taking a character apart ends after fewer steps than this. -/
def maxDepth : Nat := 8

/-- The parts of a code point that is not a syllable, in at most so many steps. -/
def partsOf : Nat → Nat → List Nat
  | 0, n => [n]
  | depth + 1, n =>
    match composites.find? (·.whole == n) with
    | some c => partsOf depth c.first ++ [c.second]
    | none => [n]

/-- A character taken apart. -/
def decomposed (c : Char) : Text :=
  ((Syllable.parts? c.toNat).getD (partsOf maxDepth c.toNat)).map Char.ofNat

/-- Puts a mark in front of the marks of higher classes that came right before it;
the text is held from its end. -/
def placeMark (c : Char) : Text → Text
  | [] => [c]
  | d :: before =>
    if 0 < markClass c ∧ markClass c < markClass d then d :: placeMark c before else c :: d :: before

/-- The text with the marks of every letter in order. -/
def ordered (t : Text) : Text := (t.foldl (fun before c => placeMark c before) []).reverse

/-- The character for two. -/
def join? (c d : Char) : Option Char :=
  let whole := match Syllable.join? c.toNat d.toNat with
    | some n => some n
    | none =>
      (composites.find? fun (p : Composite) => p.first == c.toNat && p.second == d.toNat).map Composite.whole
  whole.map Char.ofNat

/-- Joins a letter with the characters that follow it, where `between`, held from its end, stayed apart from
it. What stayed apart hides the letter from marks that are not of a higher class. -/
def joinFrom (letter : Char) (between : Text) : Text → Text
  | [] => letter :: between.reverse
  | c :: rest =>
    let hidden := match between with
      | d :: _ => decide (markClass c ≤ markClass d)
      | [] => false
    match if hidden then none else join? letter c with
    | some whole => joinFrom whole between rest
    | none =>
      if markClass c = 0 then letter :: between.reverse ++ joinFrom c [] rest
      else joinFrom letter (c :: between) rest

/-- The text with every letter joined with its marks; marks before the first letter stay. -/
def joinedUp (t : Text) : Text :=
  let marks := t.takeWhile fun c => markClass c != 0
  match t.dropWhile fun c => markClass c != 0 with
  | [] => marks
  | letter :: rest => marks ++ joinFrom letter [] rest

def composed (t : Text) : Text := joinedUp (ordered (t.flatMap decomposed))

end ApiLinks.Domain
