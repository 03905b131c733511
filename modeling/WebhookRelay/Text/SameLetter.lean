import WebhookRelay.Text.InversionList
import WebhookRelay.Text.LowerCase

/-!
# Letters that differ only in case

Two characters count as the same letter if their lower case is the same, or has the same upper case
(Unicode version 14).

- `cased`: the letters that have another case.
- `sameLetter`: the characters that are the same letter as a given one.
-/

namespace WebhookRelay.Text

/-- The code points whose lower or upper case is another code point. -/
def cased : InversionList where
  bounds := [
    0x41, 0x5B, 0x61, 0x7B, 0xB5, 0xB6, 0xC0, 0xD7, 0xD8, 0xF7, 0xF8, 0x138, 0x139, 0x18D, 0x18E,
    0x19B, 0x19C, 0x1AA, 0x1AC, 0x1BA, 0x1BC, 0x1BE, 0x1BF, 0x1C0, 0x1C4, 0x221, 0x222, 0x234,
    0x23A, 0x255, 0x256, 0x258, 0x259, 0x25A, 0x25B, 0x25D, 0x260, 0x262, 0x263, 0x264, 0x265,
    0x267, 0x268, 0x26D, 0x26F, 0x270, 0x271, 0x273, 0x275, 0x276, 0x27D, 0x27E, 0x280, 0x281,
    0x282, 0x284, 0x287, 0x28D, 0x292, 0x293, 0x29D, 0x29F, 0x345, 0x346, 0x370, 0x374, 0x376,
    0x378, 0x37B, 0x37E, 0x37F, 0x380, 0x386, 0x387, 0x388, 0x38B, 0x38C, 0x38D, 0x38E, 0x3A2,
    0x3A3, 0x3D2, 0x3D5, 0x3F6, 0x3F7, 0x3FC, 0x3FD, 0x482, 0x48A, 0x530, 0x531, 0x557, 0x561,
    0x588, 0x10A0, 0x10C6, 0x10C7, 0x10C8, 0x10CD, 0x10CE, 0x10D0, 0x10FB, 0x10FD, 0x1100, 0x13A0,
    0x13F6, 0x13F8, 0x13FE, 0x1C80, 0x1C89, 0x1C90, 0x1CBB, 0x1CBD, 0x1CC0, 0x1D79, 0x1D7A, 0x1D7D,
    0x1D7E, 0x1D8E, 0x1D8F, 0x1E00, 0x1E9C, 0x1E9E, 0x1E9F, 0x1EA0, 0x1F16, 0x1F18, 0x1F1E, 0x1F20,
    0x1F46, 0x1F48, 0x1F4E, 0x1F50, 0x1F58, 0x1F59, 0x1F5A, 0x1F5B, 0x1F5C, 0x1F5D, 0x1F5E, 0x1F5F,
    0x1F7E, 0x1F80, 0x1FB5, 0x1FB6, 0x1FBD, 0x1FBE, 0x1FBF, 0x1FC2, 0x1FC5, 0x1FC6, 0x1FCD, 0x1FD0,
    0x1FD4, 0x1FD6, 0x1FDC, 0x1FE0, 0x1FED, 0x1FF2, 0x1FF5, 0x1FF6, 0x1FFD, 0x2126, 0x2127, 0x212A,
    0x212C, 0x2132, 0x2133, 0x214E, 0x214F, 0x2160, 0x2180, 0x2183, 0x2185, 0x24B6, 0x24EA, 0x2C00,
    0x2C71, 0x2C72, 0x2C74, 0x2C75, 0x2C77, 0x2C7E, 0x2CE4, 0x2CEB, 0x2CEF, 0x2CF2, 0x2CF4, 0x2D00,
    0x2D26, 0x2D27, 0x2D28, 0x2D2D, 0x2D2E, 0xA640, 0xA66E, 0xA680, 0xA69C, 0xA722, 0xA730, 0xA732,
    0xA770, 0xA779, 0xA788, 0xA78B, 0xA78E, 0xA790, 0xA795, 0xA796, 0xA7AF, 0xA7B0, 0xA7CB, 0xA7D0,
    0xA7D2, 0xA7D6, 0xA7DA, 0xA7F5, 0xA7F7, 0xAB53, 0xAB54, 0xAB70, 0xABC0, 0xFB00, 0xFB07, 0xFB13,
    0xFB18, 0xFF21, 0xFF3B, 0xFF41, 0xFF5B, 0x10400, 0x10450, 0x104B0, 0x104D4, 0x104D8, 0x104FC,
    0x10570, 0x1057B, 0x1057C, 0x1058B, 0x1058C, 0x10593, 0x10594, 0x10596, 0x10597, 0x105A2,
    0x105A3, 0x105B2, 0x105B3, 0x105BA, 0x105BB, 0x105BD, 0x10C80, 0x10CB3, 0x10CC0, 0x10CF3,
    0x118A0, 0x118E0, 0x16E40, 0x16E80, 0x1E900, 0x1E944]

/-- Lower-case code points that have the same upper case. -/
def sharedUpperCase : List (List Nat) := [
    [0x69, 0x131], [0x73, 0x17F], [0xB5, 0x3BC], [0x345, 0x3B9, 0x1FBE], [0x390, 0x1FD3],
    [0x3B0, 0x1FE3], [0x3B2, 0x3D0], [0x3B5, 0x3F5], [0x3B8, 0x3D1], [0x3BA, 0x3F0], [0x3C0, 0x3D6],
    [0x3C1, 0x3F1], [0x3C2, 0x3C3], [0x3C6, 0x3D5], [0x432, 0x1C80], [0x434, 0x1C81],
    [0x43E, 0x1C82], [0x441, 0x1C83], [0x442, 0x1C84, 0x1C85], [0x44A, 0x1C86], [0x463, 0x1C87],
    [0x1C88, 0xA64B], [0x1E61, 0x1E9B], [0xFB05, 0xFB06]]

/-- The lower case of a code point as a single code point. -/
def lowerCode (n : Nat) : Nat :=
  if n = 0x130 then 0x69 else lowerCodePoint lowerCaseRows n

/-- The code points of which a row says that `n` is their lower case. -/
def raisedBy (n : Nat) : Nat × Nat × Nat × Int → List Nat
  | (first, last, stride, offset) =>
    let m := (n - offset : Int).toNat
    if first ≤ m && m ≤ last && (m - first) % stride = 0 && (m : Int) + offset = n then [m] else []

/-- The code points whose lower case is `n`. -/
def withLowerCase (n : Nat) : List Nat :=
  (if lowerCode n = n then [n] else []) ++ (if n = 0x69 then [0x130] else []) ++
    lowerCaseRows.flatMap (raisedBy n)

/-- The code points that are the same letter as one whose lower case is `n`. -/
def sameLetter (n : Nat) : List Nat :=
  ((sharedUpperCase.find? (·.contains n)).getD [n]).flatMap withLowerCase

end WebhookRelay.Text
