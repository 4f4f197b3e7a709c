import Rehearsal.Text.Property

/-!
# Upper and lower case

Case mapping of whole texts (Unicode 14). A character may become several in upper case, as the German
sharp s does, and one does in lower case. The Greek sigma has two lower-case forms: the final one at the
end of a word, that is behind a cased character and before none, marks in between not counted.

A table row is a run of code points with one distance between neighbours (one, or two where capitals and
small letters alternate) and the image of the first; the image moves along with the code point.
-/

namespace Rehearsal

/-- Rows of a case table: first code point, span, distance of neighbours, image of the first. -/
def caseRows : List Nat → List (Nat × Nat × Nat × Nat)
  | first :: span :: step :: image :: rest => (first, span, step, image) :: caseRows rest
  | _ => []

/-- Rows of a table of long images: code point, then the number of characters and the characters. -/
def longRows (words : List Nat) : List (Nat × List Nat) :=
  match words with
  | code :: count :: rest => (code, rest.take count) :: longRows (rest.drop count)
  | _ => []
termination_by words.length
decreasing_by simp only [List.length_drop, List.length_cons]; omega

/-- The image of a code point under a table of rows. -/
def caseImage? (rows : List (Nat × Nat × Nat × Nat)) (code : Nat) : Option Nat :=
  (rows.find? fun (first, span, step, _) =>
    first ≤ code && code ≤ first + span && (code - first) % step == 0).map fun (first, _, _, image) =>
      image + (code - first)

/-- Single characters of upper case for code points above ASCII. -/
def upperTable : List (Nat × Nat × Nat × Nat) := caseRows (hexWords (String.join [
    "b5 0 1 39c e0 16 1 c0 f8 6 1 d8 ff 0 1 178 101 2e 2 100 131 0 1 49 133 4 2 132 13a e 2 139 ",
    "14b 2c 2 14a 17a 4 2 179 17f 0 1 53 180 0 1 243 183 2 2 182 188 0 1 187 18c 0 1 18b 192 0 1 ",
    "191 195 0 1 1f6 199 0 1 198 19a 0 1 23d 19e 0 1 220 1a1 4 2 1a0 1a8 0 1 1a7 1ad 0 1 1ac 1b0 ",
    "0 1 1af 1b4 2 2 1b3 1b9 0 1 1b8 1bd 0 1 1bc 1bf 0 1 1f7 1c5 0 1 1c4 1c6 0 1 1c4 1c8 0 1 1c7 ",
    "1c9 0 1 1c7 1cb 0 1 1ca 1cc 0 1 1ca 1ce e 2 1cd 1dd 0 1 18e 1df 10 2 1de 1f2 0 1 1f1 1f3 0 ",
    "1 1f1 1f5 0 1 1f4 1f9 26 2 1f8 223 10 2 222 23c 0 1 23b 23f 1 1 2c7e 242 0 1 241 247 8 2 ",
    "246 250 0 1 2c6f 251 0 1 2c6d 252 0 1 2c70 253 0 1 181 254 0 1 186 256 1 1 189 259 0 1 18f ",
    "25b 0 1 190 25c 0 1 a7ab 260 0 1 193 261 0 1 a7ac 263 0 1 194 265 0 1 a78d 266 0 1 a7aa 268 ",
    "0 1 197 269 0 1 196 26a 0 1 a7ae 26b 0 1 2c62 26c 0 1 a7ad 26f 0 1 19c 271 0 1 2c6e 272 0 1 ",
    "19d 275 0 1 19f 27d 0 1 2c64 280 0 1 1a6 282 0 1 a7c5 283 0 1 1a9 287 0 1 a7b1 288 0 1 1ae ",
    "289 0 1 244 28a 1 1 1b1 28c 0 1 245 292 0 1 1b7 29d 0 1 a7b2 29e 0 1 a7b0 345 0 1 399 371 2 ",
    "2 370 377 0 1 376 37b 2 1 3fd 3ac 0 1 386 3ad 2 1 388 3b1 10 1 391 3c2 0 1 3a3 3c3 8 1 3a3 ",
    "3cc 0 1 38c 3cd 1 1 38e 3d0 0 1 392 3d1 0 1 398 3d5 0 1 3a6 3d6 0 1 3a0 3d7 0 1 3cf 3d9 16 ",
    "2 3d8 3f0 0 1 39a 3f1 0 1 3a1 3f2 0 1 3f9 3f3 0 1 37f 3f5 0 1 395 3f8 0 1 3f7 3fb 0 1 3fa ",
    "430 1f 1 410 450 f 1 400 461 20 2 460 48b 34 2 48a 4c2 c 2 4c1 4cf 0 1 4c0 4d1 5e 2 4d0 561 ",
    "25 1 531 10d0 2a 1 1c90 10fd 2 1 1cbd 13f8 5 1 13f0 1c80 0 1 412 1c81 0 1 414 1c82 0 1 41e ",
    "1c83 1 1 421 1c85 0 1 422 1c86 0 1 42a 1c87 0 1 462 1c88 0 1 a64a 1d79 0 1 a77d 1d7d 0 1 ",
    "2c63 1d8e 0 1 a7c6 1e01 94 2 1e00 1e9b 0 1 1e60 1ea1 5e 2 1ea0 1f00 7 1 1f08 1f10 5 1 1f18 ",
    "1f20 7 1 1f28 1f30 7 1 1f38 1f40 5 1 1f48 1f51 6 2 1f59 1f60 7 1 1f68 1f70 1 1 1fba 1f72 3 ",
    "1 1fc8 1f76 1 1 1fda 1f78 1 1 1ff8 1f7a 1 1 1fea 1f7c 1 1 1ffa 1fb0 1 1 1fb8 1fbe 0 1 399 ",
    "1fd0 1 1 1fd8 1fe0 1 1 1fe8 1fe5 0 1 1fec 214e 0 1 2132 2170 f 1 2160 2184 0 1 2183 24d0 19 ",
    "1 24b6 2c30 2f 1 2c00 2c61 0 1 2c60 2c65 0 1 23a 2c66 0 1 23e 2c68 4 2 2c67 2c73 0 1 2c72 ",
    "2c76 0 1 2c75 2c81 62 2 2c80 2cec 2 2 2ceb 2cf3 0 1 2cf2 2d00 25 1 10a0 2d27 0 1 10c7 2d2d ",
    "0 1 10cd a641 2c 2 a640 a681 1a 2 a680 a723 c 2 a722 a733 3c 2 a732 a77a 2 2 a779 a77f 8 2 ",
    "a77e a78c 0 1 a78b a791 2 2 a790 a794 0 1 a7c4 a797 12 2 a796 a7b5 e 2 a7b4 a7c8 2 2 a7c7 ",
    "a7d1 0 1 a7d0 a7d7 2 2 a7d6 a7f6 0 1 a7f5 ab53 0 1 a7b3 ab70 4f 1 13a0 ff41 19 1 ff21 10428 ",
    "27 1 10400 104d8 23 1 104b0 10597 a 1 10570 105a3 e 1 1057c 105b3 6 1 1058c 105bb 1 1 10594 ",
    "10cc0 32 1 10c80 118c0 1f 1 118a0 16e60 1f 1 16e40 1e922 21 1 1e900"]))

/-- Code points whose upper case is several characters. -/
def upperLongTable : List (Nat × List Nat) := longRows (hexWords (String.join [
    "df 2 53 53 149 2 2bc 4e 1f0 2 4a 30c 390 3 399 308 301 3b0 3 3a5 308 301 587 2 535 552 1e96 ",
    "2 48 331 1e97 2 54 308 1e98 2 57 30a 1e99 2 59 30a 1e9a 2 41 2be 1f50 2 3a5 313 1f52 3 3a5 ",
    "313 300 1f54 3 3a5 313 301 1f56 3 3a5 313 342 1f80 2 1f08 399 1f81 2 1f09 399 1f82 2 1f0a ",
    "399 1f83 2 1f0b 399 1f84 2 1f0c 399 1f85 2 1f0d 399 1f86 2 1f0e 399 1f87 2 1f0f 399 1f88 2 ",
    "1f08 399 1f89 2 1f09 399 1f8a 2 1f0a 399 1f8b 2 1f0b 399 1f8c 2 1f0c 399 1f8d 2 1f0d 399 ",
    "1f8e 2 1f0e 399 1f8f 2 1f0f 399 1f90 2 1f28 399 1f91 2 1f29 399 1f92 2 1f2a 399 1f93 2 1f2b ",
    "399 1f94 2 1f2c 399 1f95 2 1f2d 399 1f96 2 1f2e 399 1f97 2 1f2f 399 1f98 2 1f28 399 1f99 2 ",
    "1f29 399 1f9a 2 1f2a 399 1f9b 2 1f2b 399 1f9c 2 1f2c 399 1f9d 2 1f2d 399 1f9e 2 1f2e 399 ",
    "1f9f 2 1f2f 399 1fa0 2 1f68 399 1fa1 2 1f69 399 1fa2 2 1f6a 399 1fa3 2 1f6b 399 1fa4 2 1f6c ",
    "399 1fa5 2 1f6d 399 1fa6 2 1f6e 399 1fa7 2 1f6f 399 1fa8 2 1f68 399 1fa9 2 1f69 399 1faa 2 ",
    "1f6a 399 1fab 2 1f6b 399 1fac 2 1f6c 399 1fad 2 1f6d 399 1fae 2 1f6e 399 1faf 2 1f6f 399 ",
    "1fb2 2 1fba 399 1fb3 2 391 399 1fb4 2 386 399 1fb6 2 391 342 1fb7 3 391 342 399 1fbc 2 391 ",
    "399 1fc2 2 1fca 399 1fc3 2 397 399 1fc4 2 389 399 1fc6 2 397 342 1fc7 3 397 342 399 1fcc 2 ",
    "397 399 1fd2 3 399 308 300 1fd3 3 399 308 301 1fd6 2 399 342 1fd7 3 399 308 342 1fe2 3 3a5 ",
    "308 300 1fe3 3 3a5 308 301 1fe4 2 3a1 313 1fe6 2 3a5 342 1fe7 3 3a5 308 342 1ff2 2 1ffa 399 ",
    "1ff3 2 3a9 399 1ff4 2 38f 399 1ff6 2 3a9 342 1ff7 3 3a9 342 399 1ffc 2 3a9 399 fb00 2 46 46 ",
    "fb01 2 46 49 fb02 2 46 4c fb03 3 46 46 49 fb04 3 46 46 4c fb05 2 53 54 fb06 2 53 54 fb13 2 ",
    "544 546 fb14 2 544 535 fb15 2 544 53b fb16 2 54e 546 fb17 2 544 53d"]))

/-- Single characters of lower case for code points above ASCII. -/
def lowerTable : List (Nat × Nat × Nat × Nat) := caseRows (hexWords (String.join [
    "c0 16 1 e0 d8 6 1 f8 100 2e 2 101 132 4 2 133 139 e 2 13a 14a 2c 2 14b 178 0 1 ff 179 4 2 ",
    "17a 181 0 1 253 182 2 2 183 186 0 1 254 187 0 1 188 189 1 1 256 18b 0 1 18c 18e 0 1 1dd 18f ",
    "0 1 259 190 0 1 25b 191 0 1 192 193 0 1 260 194 0 1 263 196 0 1 269 197 0 1 268 198 0 1 199 ",
    "19c 0 1 26f 19d 0 1 272 19f 0 1 275 1a0 4 2 1a1 1a6 0 1 280 1a7 0 1 1a8 1a9 0 1 283 1ac 0 1 ",
    "1ad 1ae 0 1 288 1af 0 1 1b0 1b1 1 1 28a 1b3 2 2 1b4 1b7 0 1 292 1b8 0 1 1b9 1bc 0 1 1bd 1c4 ",
    "0 1 1c6 1c5 0 1 1c6 1c7 0 1 1c9 1c8 0 1 1c9 1ca 0 1 1cc 1cb 10 2 1cc 1de 10 2 1df 1f1 0 1 ",
    "1f3 1f2 2 2 1f3 1f6 0 1 195 1f7 0 1 1bf 1f8 26 2 1f9 220 0 1 19e 222 10 2 223 23a 0 1 2c65 ",
    "23b 0 1 23c 23d 0 1 19a 23e 0 1 2c66 241 0 1 242 243 0 1 180 244 0 1 289 245 0 1 28c 246 8 ",
    "2 247 370 2 2 371 376 0 1 377 37f 0 1 3f3 386 0 1 3ac 388 2 1 3ad 38c 0 1 3cc 38e 1 1 3cd ",
    "391 10 1 3b1 3a3 8 1 3c3 3cf 0 1 3d7 3d8 16 2 3d9 3f4 0 1 3b8 3f7 0 1 3f8 3f9 0 1 3f2 3fa 0 ",
    "1 3fb 3fd 2 1 37b 400 f 1 450 410 1f 1 430 460 20 2 461 48a 34 2 48b 4c0 0 1 4cf 4c1 c 2 ",
    "4c2 4d0 5e 2 4d1 531 25 1 561 10a0 25 1 2d00 10c7 0 1 2d27 10cd 0 1 2d2d 13a0 4f 1 ab70 ",
    "13f0 5 1 13f8 1c90 2a 1 10d0 1cbd 2 1 10fd 1e00 94 2 1e01 1e9e 0 1 df 1ea0 5e 2 1ea1 1f08 7 ",
    "1 1f00 1f18 5 1 1f10 1f28 7 1 1f20 1f38 7 1 1f30 1f48 5 1 1f40 1f59 6 2 1f51 1f68 7 1 1f60 ",
    "1f88 7 1 1f80 1f98 7 1 1f90 1fa8 7 1 1fa0 1fb8 1 1 1fb0 1fba 1 1 1f70 1fbc 0 1 1fb3 1fc8 3 ",
    "1 1f72 1fcc 0 1 1fc3 1fd8 1 1 1fd0 1fda 1 1 1f76 1fe8 1 1 1fe0 1fea 1 1 1f7a 1fec 0 1 1fe5 ",
    "1ff8 1 1 1f78 1ffa 1 1 1f7c 1ffc 0 1 1ff3 2126 0 1 3c9 212a 0 1 6b 212b 0 1 e5 2132 0 1 ",
    "214e 2160 f 1 2170 2183 0 1 2184 24b6 19 1 24d0 2c00 2f 1 2c30 2c60 0 1 2c61 2c62 0 1 26b ",
    "2c63 0 1 1d7d 2c64 0 1 27d 2c67 4 2 2c68 2c6d 0 1 251 2c6e 0 1 271 2c6f 0 1 250 2c70 0 1 ",
    "252 2c72 0 1 2c73 2c75 0 1 2c76 2c7e 1 1 23f 2c80 62 2 2c81 2ceb 2 2 2cec 2cf2 0 1 2cf3 ",
    "a640 2c 2 a641 a680 1a 2 a681 a722 c 2 a723 a732 3c 2 a733 a779 2 2 a77a a77d 0 1 1d79 a77e ",
    "8 2 a77f a78b 0 1 a78c a78d 0 1 265 a790 2 2 a791 a796 12 2 a797 a7aa 0 1 266 a7ab 0 1 25c ",
    "a7ac 0 1 261 a7ad 0 1 26c a7ae 0 1 26a a7b0 0 1 29e a7b1 0 1 287 a7b2 0 1 29d a7b3 0 1 ab53 ",
    "a7b4 e 2 a7b5 a7c4 0 1 a794 a7c5 0 1 282 a7c6 0 1 1d8e a7c7 2 2 a7c8 a7d0 0 1 a7d1 a7d6 2 2 ",
    "a7d7 a7f5 0 1 a7f6 ff21 19 1 ff41 10400 27 1 10428 104b0 23 1 104d8 10570 a 1 10597 1057c e ",
    "1 105a3 1058c 6 1 105b3 10594 1 1 105bb 10c80 32 1 10cc0 118a0 1f 1 118c0 16e40 1f 1 16e60 ",
    "1e900 21 1 1e922"]))

/-- Cased code points above ASCII that are not passed over in the search for the end of a word. -/
def casedTable : Property := .ofWords (String.join [
    "aa 0 b 0 5 0 6 16 2 1e 2 c2 2 3 5 cf 2 1a c1 3 3 1 4 2 2 0 7 0 2 2 2 0 2 13 2 52 2 8a 9 a5 ",
    "2 25 a 28 b18 25 2 0 6 0 3 2a 3 2 2a1 55 3 5 883 8 8 2a 3 2 41 2b 40 c 2 21 66 115 3 5 3 25 ",
    "3 5 3 7 2 0 2 0 2 0 2 1e 3 34 2 6 2 0 4 2 2 6 4 3 3 5 5 c 6 2 2 6 106 0 5 0 3 9 2 0 4 4 7 0 ",
    "2 0 2 0 2 3 2 5 5 0 3 3 6 4 5 0 12 1f 4 1 332 33 717 7b 3 66 7 3 4 1 d 25 2 0 6 0 7913 2d ",
    "13 1b 87 4d 2 16 4 3 2 3a 6 1 2 0 2 4 1c 1 4 0 336 2a 6 8 8 4f 4f41 6 d 4 40a 19 7 19 4a6 ",
    "4f 61 23 5 23 75 a 2 e 2 6 2 1 2 a 2 e 2 6 2 1 6c4 32 e 32 bae 3f 5561 3f 6581 54 2 46 2 1 ",
    "3 0 3 1 3 3 2 b 2 0 2 6 2 40 2 3 3 7 2 6 2 1b 2 3 2 4 2 0 4 6 2 153 3 18 2 18 2 1e 2 18 2 ",
    "1e 2 18 2 1e 2 18 2 1e 2 18 2 7 735 9 2 13 9e2 43 7ed 19 7 19 7 19"])

/-- Code points above ASCII that are passed over in the search for the end of a word. -/
def caseIgnorableTable : Property := .ofWords (String.join [
    "a8 0 5 0 2 0 5 0 3 1 1f8 bf 5 1 5 0 a 1 2 0 fc 6 d0 0 6 0 32 2c 2 0 2 1 2 1 2 0 2d 0 c 5 b ",
    "a 2 0 24 0 b 14 11 0 66 7 2 9 2 3 22 0 2 0 1f 1a 5c a 3b a 5 0 3 0 19 17 2c 2 2d 0 8 1 7 7 ",
    "2a 39 38 0 2 0 5 7 5 0 4 6 b 1 e 0 10 0 3b 0 5 3 9 0 15 1 1b 0 3 1 3a 0 5 1 5 1 3 2 4 0 1f ",
    "1 4 0 c 1 3a 0 5 4 2 1 5 0 15 1 17 5 2 0 3b 0 3 0 2 3 9 0 8 1 c 1 1f 0 3e 0 d 0 33 0 4 0 38 ",
    "0 2 2 6 2 2 3 8 1 c 1 1e 0 3b 0 3 0 7 0 6 1 15 1 1d 1 3a 1 5 3 9 0 15 1 1e 0 49 0 8 2 2 0 ",
    "5b 0 3 6 c 8 63 0 3 8 a 0 2 5 4b 1 1c 0 2 0 2 0 38 d 2 4 2 1 6 a 2 23 a 0 67 3 2 5 2 1 3 1 ",
    "1a 1 5 2 11 3 e 0 3 1 7 0 10 0 5f 0 261 2 3b3 2 1e 1 1f 1 1f 1 41 1 2 6 9 0 3 a 4 0 6 0 2e ",
    "4 34 0 42 1 23 0 77 2 5 1 a 0 7 2 dc 1 3 0 3b 0 2 6 2 0 2 0 3 7 7 9 3 0 28 0 9 1e 32 3 31 0 ",
    "2 4 2 0 6 0 29 8 d 1 21 3 3 1 2 2 39 0 2 1 4 0 2 2 3b 7 3 1 41 5 53 2 2 c 2 6 5 0 7 0 4 1 ",
    "33 3e e 0 23 64 1be 0 2 2 c 2 e 2 e 2 e 1 d 4 9 1 b 0 3 0 3 4 32 4 2 9 2 0 e 0 11 c 34 20 ",
    "b8c 1 72 2 7e 0 10 0 61 1f 30 0 1d6 0 25 3 4 4 6 0 5e 5 5e 2 6f17 0 4e3 5 10f 0 63 3 2 9 2 ",
    "0 1d 3 51 1 f 21 4f 0 18 2 68 2 4 1 9 0 4 0 5 0 1a 1 6 0 98 1 1b 11 e 0 27 7 1a a 2f 2 31 0 ",
    "3 3 3 1 12 0 16 1 43 5 3 1 3 1 d 0 9 0 24 0 c 0 34 0 2 2 3 1 6 1 2 0 1c 0 f 1 6 1 2 0 65 4 ",
    "a 2 7a 0 3 0 5 0 4f31 0 94 10 23e f 4 0 d f 23 0 3 0 aa 0 8 0 7 0 c 0 24 0 2 0 30 0 2e 1 44 ",
    "0 16 2 202 0 e3 0 96 4 406 5 2 29 2 8 247 2 2 1 6 3 29 2 5 0 a6 1 23e 3 184 1 9a a 32 3 7c ",
    "0 37 e 2a 0 3 1 b 2 32 3 3 1 3 0 5 0 b 0 33 2 25 4 2 7 3f 0 d 1 35 8 b 3 3 0 60 2 3 0 2 1 7 ",
    "0 a1 0 4 7 16 1 3a 1 4 0 26 6 4 4 c4 7 3 2 2 0 18 0 55 5 2 0 5 1 2 1 ef 3 7 1 2 1 1c 1 56 7 ",
    "3 0 2 1 6b 0 2 0 3 5 2 0 66 2 3 3 2 4 104 8 2 1 101 1 2 0 5 0 91 3 3 1 5 0 21 9 29 5 3 3 9 ",
    "0 a 5 3 2 2f c 2 1 197 6 2 5 2 0 53 15 3 6 2 1 2 1 7b 5 4 0 2 1 2 6 2 0 49 1 4 0 2 0 15c 1 ",
    "153c 8 36b8 4 3c 6 a 3 40c 0 40 10 41 1 2 1 400c 3 2 6 2 1 c9f 1 2 3 125d 2d 3 16 221 2 a f ",
    "3 6 1f 3 95 2 7bc 36 5 31 9 0 f 0 17 4 2 e 551 6 2 10 3 6 2 1 2 4 106 d 171 0 3e 3 5e1 6 6e ",
    "7 ab0 4 c0c02 0 1f 5f 81 ef"])

/-- The upper case of one character. -/
def upperChars (c : Char) : List Char :=
  if c.toNat < 0x80 then [c.toUpper]
  else match upperLongTable.find? fun (code, _) => code == c.toNat with
    | some (_, image) => image.map Char.ofNat
    | none => [((caseImage? upperTable c.toNat).map Char.ofNat).getD c]

/-- The lower case of one character outside any word, when that is a single character. -/
def lowerChar (c : Char) : Char :=
  if c.toNat < 0x80 then c.toLower else ((caseImage? lowerTable c.toNat).map Char.ofNat).getD c

/-- Whether a character is passed over in the search for the end of a word. -/
def isCaseIgnorable (c : Char) : Bool :=
  if c.toNat < 0x80 then [0x27, 0x2E, 0x3A, 0x5E, 0x60].contains c.toNat
  else caseIgnorableTable.holds c.toNat

/-- Whether a character is cased and not passed over. -/
def isCased (c : Char) : Bool := if c.toNat < 0x80 then c.isAlpha else casedTable.holds c.toNat

/-- Whether the first character that is not passed over is cased. -/
def startsCased (cs : List Char) : Bool := match cs.dropWhile isCaseIgnorable with
  | [] => false
  | c :: _ => isCased c

/-- The lower case of one character between what stands before it, nearest first, and behind it. -/
def lowerChars (before : List Char) (c : Char) (behind : List Char) : List Char :=
  if c.toNat == 0x3A3 then
    [if startsCased before && !startsCased behind then Char.ofNat 0x3C2 else Char.ofNat 0x3C3]
  else if c.toNat == 0x130 then [Char.ofNat 0x69, Char.ofNat 0x307]
  else [lowerChar c]

/-- Lower case of the characters behind `before`. -/
def lowerFrom (before : List Char) : List Char → List Char
  | [] => []
  | c :: rest => lowerChars before c rest ++ lowerFrom (c :: before) rest

/-- A text in upper case. -/
def upperCase (s : String) : String := String.ofList (s.toList.flatMap upperChars)

/-- A text in lower case. -/
def lowerCase (s : String) : String := String.ofList (lowerFrom [] s.toList)

end Rehearsal
