/-!
# Texts and their characters

Texts that come from outside are bytes before they are characters, and they often have blanks around
them that do not count. Properties of the characters of all scripts are stored as tables of ranges.

## Main definitions

* `Bytes`: a sequence of bytes
* `Bytes.ofString`, `Bytes.toString?`: the UTF-8 form of a text, and back if it is one
* `Bytes.textLength`: how far bytes are the UTF-8 form of a text
* `Bytes.repaired`: the text that bytes are, with a mark for what is none
* `Blank.isBlank`: whether a character is white space
* `Blank.trimStart`, `Blank.trim`: characters without blanks at the start, at both ends
* `RangeTable.parse`: the items of a text
* `RangeTable.find?`: the item that a character belongs to, by halving
* `RangeTable.contains`, `RangeTable.value?`: membership, and the value of a character
* `Alphanumeric.isAlphanumeric`: whether a character is a letter or a number, of whatever script
* `Quoted.invisible`: the characters without a visible form of their own
* `Quoted.quote`: text between quotes
-/

namespace HttpLoad

/-! ## Bytes -/

/-- A sequence of bytes. -/
abbrev Bytes := List UInt8

namespace Bytes

/-- The UTF-8 form of characters. -/
def ofChars (cs : List Char) : Bytes := cs.flatMap String.utf8EncodeChar

/-- The UTF-8 form of a text. -/
def ofString (s : String) : Bytes := ofChars s.toList

/-- The text that bytes are the UTF-8 form of, if they are one. -/
def toString? (bytes : Bytes) : Option String := String.fromUTF8? ⟨bytes.toArray⟩

/-- The length of the longest beginning that is the UTF-8 form of a text. -/
def textLength (bytes : Bytes) : Nat :=
  ((List.range (bytes.length + 1)).reverse.find? fun n =>
    (toString? (bytes.take n)).isSome).getD 0

/-- The first byte of a character, how many bytes follow it, and between which the second one is. -/
def follows (b : UInt8) : Nat × UInt8 × UInt8 :=
  if 0xc2 ≤ b && b ≤ 0xdf then (1, 0x80, 0xbf)
  else if b = 0xe0 then (2, 0xa0, 0xbf)
  else if b = 0xed then (2, 0x80, 0x9f)
  else if 0xe1 ≤ b && b ≤ 0xef then (2, 0x80, 0xbf)
  else if b = 0xf0 then (3, 0x90, 0xbf)
  else if 0xf1 ≤ b && b ≤ 0xf3 then (3, 0x80, 0xbf)
  else if b = 0xf4 then (3, 0x80, 0x8f)
  else (0, 0x80, 0xbf)

/-- How many bytes at the start are the beginning of a character that is not completed, or one. -/
def brokenLength : Bytes → Nat
  | a :: b :: rest =>
    let (count, low, high) := follows a
    if count = 0 || b < low || high < b then 1
    else 2 + ((rest.take (count - 1)).takeWhile fun c => 0x80 ≤ c && c ≤ 0xbf).length
  | _ => 1

/-- The mark for bytes that are no text. -/
def mark : String := "\ufffd"

/-- The text that bytes are, put behind another one. -/
def repairedFrom : Nat → String → Bytes → String
  | 0, before, _ => before
  | fuel + 1, before, bytes =>
    let length := textLength bytes
    let text := before ++ (toString? (bytes.take length)).getD ""
    match bytes.drop length with
    | [] => text
    | rest => repairedFrom fuel (text ++ mark) (rest.drop (brokenLength rest))

/-- **The text that bytes are, with a mark for what is none.** -/
def repaired (bytes : Bytes) : String := repairedFrom (bytes.length + 1) "" bytes

end Bytes

/-! ## Blank characters -/

namespace Blank

/-- Whether a character has the property White_Space. -/
def isBlank (c : Char) : Bool :=
  let n := c.toNat
  (0x09 ≤ n && n ≤ 0x0d) || n == 0x20 || n == 0x85 || n == 0xa0 || n == 0x1680
    || (0x2000 ≤ n && n ≤ 0x200a) || n == 0x2028 || n == 0x2029 || n == 0x202f || n == 0x205f
    || n == 0x3000

/-- Characters without the blanks at their start. -/
def trimStart (cs : List Char) : List Char := cs.dropWhile isBlank

/-- Characters without the blanks at their ends. -/
def trim (cs : List Char) : List Char :=
  (trimStart (trimStart cs).reverse).reverse

end Blank

/-!
## Tables of ranges

A property of characters is stored as text: items in ascending order, with blanks or line breaks
between them. An item is a code point in hexadecimal or two of them as a range, `20..7E`, and it may
give its characters a value, `30..39=E`.
-/

/-- An item: its first and last code point, and its value. -/
structure RangeItem where
  first : Nat
  last : Nat
  value : List Char
deriving DecidableEq, Repr, Inhabited

/-- Items in ascending order. -/
abbrev RangeTable := Array RangeItem

/-- The value of a hexadecimal digit. Other characters count as zero. -/
def hexDigitValue (c : Char) : Nat :=
  if c.isDigit then c.toNat - '0'.toNat
  else if 'A' ≤ c ∧ c ≤ 'F' then c.toNat - 'A'.toNat + 10
  else if 'a' ≤ c ∧ c ≤ 'f' then c.toNat - 'a'.toNat + 10
  else 0

/-- The value of a run of hexadecimal digits. -/
def hexNumber (cs : List Char) : Nat := cs.foldl (fun n c => 16 * n + hexDigitValue c) 0

namespace RangeItem

/-- An item from its text. -/
def parse (cs : List Char) : RangeItem :=
  let key := cs.takeWhile (· != '=')
  let first := key.takeWhile (· != '.')
  let last := (key.dropWhile (· != '.')).dropWhile (· == '.')
  { first := hexNumber first
    last := hexNumber (if last.isEmpty then first else last)
    value := (cs.dropWhile (· != '=')).drop 1 }

end RangeItem

namespace RangeTable

/-- Items are separated by blanks and line breaks. -/
def isSeparator (c : Char) : Bool := c == ' ' || c == '\n'

def parse (text : String) : RangeTable :=
  (((text.toList.splitOnP isSeparator).filter fun item => !item.isEmpty).map
    RangeItem.parse).toArray

/-- The item of a code point among the items from `low` up to below `high`, halved at most `fuel`
times. -/
def search (table : RangeTable) (n : Nat) : Nat → Nat → Nat → Option RangeItem
  | 0, _, _ => none
  | fuel + 1, low, high =>
    if high ≤ low then none
    else
      let middle := (low + high) / 2
      match table[middle]? with
      | none => none
      | some item =>
        if n < item.first then search table n fuel low middle
        else if item.last < n then search table n fuel (middle + 1) high
        else some item

/-- The item that a code point belongs to. -/
def find? (table : RangeTable) (n : Nat) : Option RangeItem :=
  search table n (table.size + 1) 0 table.size

/-- Whether a character belongs to one of the items. -/
def contains (table : RangeTable) (c : Char) : Bool := (table.find? c.toNat).isSome

/-- The value of a character; nothing if it belongs to no item. -/
def value? (table : RangeTable) (c : Char) : Option (List Char) :=
  (table.find? c.toNat).map RangeItem.value

end RangeTable

/-! ## Letters and numbers -/

namespace Alphanumeric

/-- The code points beyond ASCII that have the property Alphabetic or belong to the numbers. -/
def table : String :=
  "AA B2..B3 B5 B9..BA BC..BE C0..D6 D8..F6 F8..2C1 2C6..2D1 2E0..2E4 2EC 2EE 345 363..374 376..377
  37A..37D 37F 386 388..38A 38C 38E..3A1 3A3..3F5 3F7..481 48A..52F 531..556 559 560..588 5B0..5BD
  5BF 5C1..5C2 5C4..5C5 5C7 5D0..5EA 5EF..5F2 610..61A 620..657 659..669 66E..6D3 6D5..6DC
  6E1..6E8 6ED..6FC 6FF 710..73F 74D..7B1 7C0..7EA 7F4..7F5 7FA 800..817 81A..82C 840..858
  860..86A 870..887 889..88F 897 8A0..8C9 8D4..8DF 8E3..8E9 8F0..93B 93D..94C 94E..950 955..963
  966..96F 971..983 985..98C 98F..990 993..9A8 9AA..9B0 9B2 9B6..9B9 9BD..9C4 9C7..9C8 9CB..9CC
  9CE 9D7 9DC..9DD 9DF..9E3 9E6..9F1 9F4..9F9 9FC A01..A03 A05..A0A A0F..A10 A13..A28 A2A..A30
  A32..A33 A35..A36 A38..A39 A3E..A42 A47..A48 A4B..A4C A51 A59..A5C A5E A66..A75 A81..A83
  A85..A8D A8F..A91 A93..AA8 AAA..AB0 AB2..AB3 AB5..AB9 ABD..AC5 AC7..AC9 ACB..ACC AD0 AE0..AE3
  AE6..AEF AF9..AFC B01..B03 B05..B0C B0F..B10 B13..B28 B2A..B30 B32..B33 B35..B39 B3D..B44
  B47..B48 B4B..B4C B56..B57 B5C..B5D B5F..B63 B66..B6F B71..B77 B82..B83 B85..B8A B8E..B90
  B92..B95 B99..B9A B9C B9E..B9F BA3..BA4 BA8..BAA BAE..BB9 BBE..BC2 BC6..BC8 BCA..BCC BD0 BD7
  BE6..BF2 C00..C0C C0E..C10 C12..C28 C2A..C39 C3D..C44 C46..C48 C4A..C4C C55..C56 C58..C5A
  C5C..C5D C60..C63 C66..C6F C78..C7E C80..C83 C85..C8C C8E..C90 C92..CA8 CAA..CB3 CB5..CB9
  CBD..CC4 CC6..CC8 CCA..CCC CD5..CD6 CDC..CDE CE0..CE3 CE6..CEF CF1..CF3 D00..D0C D0E..D10
  D12..D3A D3D..D44 D46..D48 D4A..D4C D4E D54..D63 D66..D78 D7A..D7F D81..D83 D85..D96 D9A..DB1
  DB3..DBB DBD DC0..DC6 DCF..DD4 DD6 DD8..DDF DE6..DEF DF2..DF3 E01..E3A E40..E46 E4D E50..E59
  E81..E82 E84 E86..E8A E8C..EA3 EA5 EA7..EB9 EBB..EBD EC0..EC4 EC6 ECD ED0..ED9 EDC..EDF F00
  F20..F33 F40..F47 F49..F6C F71..F83 F88..F97 F99..FBC 1000..1036 1038 103B..1049 1050..109D
  10A0..10C5 10C7 10CD 10D0..10FA 10FC..1248 124A..124D 1250..1256 1258 125A..125D 1260..1288
  128A..128D 1290..12B0 12B2..12B5 12B8..12BE 12C0 12C2..12C5 12C8..12D6 12D8..1310 1312..1315
  1318..135A 1369..137C 1380..138F 13A0..13F5 13F8..13FD 1401..166C 166F..167F 1681..169A
  16A0..16EA 16EE..16F8 1700..1713 171F..1733 1740..1753 1760..176C 176E..1770 1772..1773
  1780..17B3 17B6..17C8 17D7 17DC 17E0..17E9 17F0..17F9 1810..1819 1820..1878 1880..18AA
  18B0..18F5 1900..191E 1920..192B 1930..1938 1946..196D 1970..1974 1980..19AB 19B0..19C9
  19D0..19DA 1A00..1A1B 1A20..1A5E 1A61..1A74 1A80..1A89 1A90..1A99 1AA7 1ABF..1AC0 1ACC..1ACE
  1B00..1B33 1B35..1B43 1B45..1B4C 1B50..1B59 1B80..1BA9 1BAC..1BE5 1BE7..1BF1 1C00..1C36
  1C40..1C49 1C4D..1C7D 1C80..1C8A 1C90..1CBA 1CBD..1CBF 1CE9..1CEC 1CEE..1CF3 1CF5..1CF6 1CFA
  1D00..1DBF 1DD3..1DF4 1E00..1F15 1F18..1F1D 1F20..1F45 1F48..1F4D 1F50..1F57 1F59 1F5B 1F5D
  1F5F..1F7D 1F80..1FB4 1FB6..1FBC 1FBE 1FC2..1FC4 1FC6..1FCC 1FD0..1FD3 1FD6..1FDB 1FE0..1FEC
  1FF2..1FF4 1FF6..1FFC 2070..2071 2074..2079 207F..2089 2090..209C 2102 2107 210A..2113 2115
  2119..211D 2124 2126 2128 212A..212D 212F..2139 213C..213F 2145..2149 214E 2150..2189 2460..249B
  24B6..24FF 2776..2793 2C00..2CE4 2CEB..2CEE 2CF2..2CF3 2CFD 2D00..2D25 2D27 2D2D 2D30..2D67 2D6F
  2D80..2D96 2DA0..2DA6 2DA8..2DAE 2DB0..2DB6 2DB8..2DBE 2DC0..2DC6 2DC8..2DCE 2DD0..2DD6
  2DD8..2DDE 2DE0..2DFF 2E2F 3005..3007 3021..3029 3031..3035 3038..303C 3041..3096 309D..309F
  30A1..30FA 30FC..30FF 3105..312F 3131..318E 3192..3195 31A0..31BF 31F0..31FF 3220..3229
  3248..324F 3251..325F 3280..3289 32B1..32BF 3400..4DBF 4E00..A48C A4D0..A4FD A500..A60C
  A610..A62B A640..A66E A674..A67B A67F..A6EF A717..A71F A722..A788 A78B..A7DC A7F1..A805
  A807..A827 A830..A835 A840..A873 A880..A8C3 A8C5 A8D0..A8D9 A8F2..A8F7 A8FB A8FD..A92A
  A930..A952 A960..A97C A980..A9B2 A9B4..A9BF A9CF..A9D9 A9E0..A9FE AA00..AA36 AA40..AA4D
  AA50..AA59 AA60..AA76 AA7A..AABE AAC0 AAC2 AADB..AADD AAE0..AAEF AAF2..AAF5 AB01..AB06
  AB09..AB0E AB11..AB16 AB20..AB26 AB28..AB2E AB30..AB5A AB5C..AB69 AB70..ABEA ABF0..ABF9
  AC00..D7A3 D7B0..D7C6 D7CB..D7FB F900..FA6D FA70..FAD9 FB00..FB06 FB13..FB17 FB1D..FB28
  FB2A..FB36 FB38..FB3C FB3E FB40..FB41 FB43..FB44 FB46..FBB1 FBD3..FD3D FD50..FD8F FD92..FDC7
  FDF0..FDFB FE70..FE74 FE76..FEFC FF10..FF19 FF21..FF3A FF41..FF5A FF66..FFBE FFC2..FFC7
  FFCA..FFCF FFD2..FFD7 FFDA..FFDC 10000..1000B 1000D..10026 10028..1003A 1003C..1003D
  1003F..1004D 10050..1005D 10080..100FA 10107..10133 10140..10178 1018A..1018B 10280..1029C
  102A0..102D0 102E1..102FB 10300..10323 1032D..1034A 10350..1037A 10380..1039D 103A0..103C3
  103C8..103CF 103D1..103D5 10400..1049D 104A0..104A9 104B0..104D3 104D8..104FB 10500..10527
  10530..10563 10570..1057A 1057C..1058A 1058C..10592 10594..10595 10597..105A1 105A3..105B1
  105B3..105B9 105BB..105BC 105C0..105F3 10600..10736 10740..10755 10760..10767 10780..10785
  10787..107B0 107B2..107BA 10800..10805 10808 1080A..10835 10837..10838 1083C 1083F..10855
  10858..10876 10879..1089E 108A7..108AF 108E0..108F2 108F4..108F5 108FB..1091B 10920..10939
  10940..10959 10980..109B7 109BC..109CF 109D2..10A03 10A05..10A06 10A0C..10A13 10A15..10A17
  10A19..10A35 10A40..10A48 10A60..10A7E 10A80..10A9F 10AC0..10AC7 10AC9..10AE4 10AEB..10AEF
  10B00..10B35 10B40..10B55 10B58..10B72 10B78..10B91 10BA9..10BAF 10C00..10C48 10C80..10CB2
  10CC0..10CF2 10CFA..10D27 10D30..10D39 10D40..10D65 10D69 10D6F..10D85 10E60..10E7E 10E80..10EA9
  10EAB..10EAC 10EB0..10EB1 10EC2..10EC7 10EFA..10EFC 10F00..10F27 10F30..10F45 10F51..10F54
  10F70..10F81 10FB0..10FCB 10FE0..10FF6 11000..11045 11052..1106F 11071..11075 11080..110B8 110C2
  110D0..110E8 110F0..110F9 11100..11132 11136..1113F 11144..11147 11150..11172 11176 11180..111BF
  111C1..111C4 111CE..111DA 111DC 111E1..111F4 11200..11211 11213..11234 11237 1123E..11241
  11280..11286 11288 1128A..1128D 1128F..1129D 1129F..112A8 112B0..112E8 112F0..112F9 11300..11303
  11305..1130C 1130F..11310 11313..11328 1132A..11330 11332..11333 11335..11339 1133D..11344
  11347..11348 1134B..1134C 11350 11357 1135D..11363 11380..11389 1138B 1138E 11390..113B5
  113B7..113C0 113C2 113C5 113C7..113CA 113CC..113CD 113D1 113D3 11400..11441 11443..11445
  11447..1144A 11450..11459 1145F..11461 11480..114C1 114C4..114C5 114C7 114D0..114D9 11580..115B5
  115B8..115BE 115D8..115DD 11600..1163E 11640 11644 11650..11659 11680..116B5 116B8 116C0..116C9
  116D0..116E3 11700..1171A 1171D..1172A 11730..1173B 11740..11746 11800..11838 118A0..118F2
  118FF..11906 11909 1190C..11913 11915..11916 11918..11935 11937..11938 1193B..1193C 1193F..11942
  11950..11959 119A0..119A7 119AA..119D7 119DA..119DF 119E1 119E3..119E4 11A00..11A32 11A35..11A3E
  11A50..11A97 11A9D 11AB0..11AF8 11B60..11B67 11BC0..11BE0 11BF0..11BF9 11C00..11C08 11C0A..11C36
  11C38..11C3E 11C40 11C50..11C6C 11C72..11C8F 11C92..11CA7 11CA9..11CB6 11D00..11D06 11D08..11D09
  11D0B..11D36 11D3A 11D3C..11D3D 11D3F..11D41 11D43 11D46..11D47 11D50..11D59 11D60..11D65
  11D67..11D68 11D6A..11D8E 11D90..11D91 11D93..11D96 11D98 11DA0..11DA9 11DB0..11DDB 11DE0..11DE9
  11EE0..11EF6 11F00..11F10 11F12..11F3A 11F3E..11F40 11F50..11F59 11FB0 11FC0..11FD4 12000..12399
  12400..1246E 12480..12543 12F90..12FF0 13000..1342F 13441..13446 13460..143FA 14400..14646
  16100..1612E 16130..16139 16800..16A38 16A40..16A5E 16A60..16A69 16A70..16ABE 16AC0..16AC9
  16AD0..16AED 16B00..16B2F 16B40..16B43 16B50..16B59 16B5B..16B61 16B63..16B77 16B7D..16B8F
  16D40..16D6C 16D70..16D79 16E40..16E96 16EA0..16EB8 16EBB..16ED3 16F00..16F4A 16F4F..16F87
  16F8F..16F9F 16FE0..16FE1 16FE3 16FF0..16FF6 17000..18CD5 18CFF..18D1E 18D80..18DF2 1AFF0..1AFF3
  1AFF5..1AFFB 1AFFD..1AFFE 1B000..1B122 1B132 1B150..1B152 1B155 1B164..1B167 1B170..1B2FB
  1BC00..1BC6A 1BC70..1BC7C 1BC80..1BC88 1BC90..1BC99 1BC9E 1CCF0..1CCF9 1D2C0..1D2D3 1D2E0..1D2F3
  1D360..1D378 1D400..1D454 1D456..1D49C 1D49E..1D49F 1D4A2 1D4A5..1D4A6 1D4A9..1D4AC 1D4AE..1D4B9
  1D4BB 1D4BD..1D4C3 1D4C5..1D505 1D507..1D50A 1D50D..1D514 1D516..1D51C 1D51E..1D539 1D53B..1D53E
  1D540..1D544 1D546 1D54A..1D550 1D552..1D6A5 1D6A8..1D6C0 1D6C2..1D6DA 1D6DC..1D6FA 1D6FC..1D714
  1D716..1D734 1D736..1D74E 1D750..1D76E 1D770..1D788 1D78A..1D7A8 1D7AA..1D7C2 1D7C4..1D7CB
  1D7CE..1D7FF 1DF00..1DF1E 1DF25..1DF2A 1E000..1E006 1E008..1E018 1E01B..1E021 1E023..1E024
  1E026..1E02A 1E030..1E06D 1E08F 1E100..1E12C 1E137..1E13D 1E140..1E149 1E14E 1E290..1E2AD
  1E2C0..1E2EB 1E2F0..1E2F9 1E4D0..1E4EB 1E4F0..1E4F9 1E5D0..1E5ED 1E5F0..1E5FA 1E6C0..1E6DE
  1E6E0..1E6F5 1E6FE..1E6FF 1E7E0..1E7E6 1E7E8..1E7EB 1E7ED..1E7EE 1E7F0..1E7FE 1E800..1E8C4
  1E8C7..1E8CF 1E900..1E943 1E947 1E94B 1E950..1E959 1EC71..1ECAB 1ECAD..1ECAF 1ECB1..1ECB4
  1ED01..1ED2D 1ED2F..1ED3D 1EE00..1EE03 1EE05..1EE1F 1EE21..1EE22 1EE24 1EE27 1EE29..1EE32
  1EE34..1EE37 1EE39 1EE3B 1EE42 1EE47 1EE49 1EE4B 1EE4D..1EE4F 1EE51..1EE52 1EE54 1EE57 1EE59
  1EE5B 1EE5D 1EE5F 1EE61..1EE62 1EE64 1EE67..1EE6A 1EE6C..1EE72 1EE74..1EE77 1EE79..1EE7C 1EE7E
  1EE80..1EE89 1EE8B..1EE9B 1EEA1..1EEA3 1EEA5..1EEA9 1EEAB..1EEBB 1F100..1F10C 1F130..1F149
  1F150..1F169 1F170..1F189 1FBF0..1FBF9 20000..2A6DF 2A700..2B81D 2B820..2CEAD 2CEB0..2EBE0
  2EBF0..2EE5D 2F800..2FA1D 30000..3134A 31350..33479"

def ranges : RangeTable := RangeTable.parse table

/-- Whether a character is a letter or a number. -/
def isAlphanumeric (c : Char) : Bool :=
  if c.toNat < 0x80 then c.isAlphanum else ranges.contains c

end Alphanumeric

/-!
## Quoted text

Text between double quotes, for messages and log lines. A quote, a backslash, a tab, a line break
and NUL have short escapes; every other character that has no visible form of its own is written by
its code point in hexadecimal.
-/

namespace Quoted

/-- The code points without a visible form of their own: controls, format characters, surrogates,
private and unassigned ones, all separators except the space, the marks that extend the character
before them, and the letters that only fill an empty place of a syllable. -/
def invisibleTable : String :=
  "0..1F 7F..A0 AD 300..36F 378..379 380..383 38B 38D 3A2 483..489 530 557..558 58B..58C 590..5BD
  5BF 5C1..5C2 5C4..5C5 5C7..5CF 5EB..5EE 5F5..605 610..61A 61C 64B..65F 670 6D6..6DD 6DF..6E4
  6E7..6E8 6EA..6ED 70E..70F 711 730..74C 7A6..7B0 7B2..7BF 7EB..7F3 7FB..7FD 816..819 81B..823
  825..827 829..82F 83F 859..85D 85F 86B..86F 890..89F 8CA..902 93A 93C 941..948 94D 951..957
  962..963 981 984 98D..98E 991..992 9A9 9B1 9B3..9B5 9BA..9BC 9BE 9C1..9C6 9C9..9CA 9CD 9CF..9DB
  9DE 9E2..9E5 9FE..A02 A04 A0B..A0E A11..A12 A29 A31 A34 A37 A3A..A3D A41..A58 A5D A5F..A65
  A70..A71 A75 A77..A82 A84 A8E A92 AA9 AB1 AB4 ABA..ABC AC1..AC8 ACA ACD..ACF AD1..ADF AE2..AE5
  AF2..AF8 AFA..B01 B04 B0D..B0E B11..B12 B29 B31 B34 B3A..B3C B3E..B3F B41..B46 B49..B4A B4D..B5B
  B5E B62..B65 B78..B82 B84 B8B..B8D B91 B96..B98 B9B B9D BA0..BA2 BA5..BA7 BAB..BAD BBA..BBE BC0
  BC3..BC5 BC9 BCD..BCF BD1..BE5 BFB..C00 C04 C0D C11 C29 C3A..C3C C3E..C40 C45..C57 C5B C5E..C5F
  C62..C65 C70..C76 C81 C8D C91 CA9 CB4 CBA..CBC CBF..CC0 CC2 CC5..CDB CDF CE2..CE5 CF0 CF4..D01
  D0D D11 D3B..D3C D3E D41..D45 D49 D4D D50..D53 D57 D62..D65 D80..D81 D84 D97..D99 DB2 DBC
  DBE..DBF DC7..DCF DD2..DD7 DDF..DE5 DF0..DF1 DF5..E00 E31 E34..E3E E47..E4E E5C..E80 E83 E85 E8B
  EA4 EA6 EB1 EB4..EBC EBE..EBF EC5 EC7..ECF EDA..EDB EE0..EFF F18..F19 F35 F37 F39 F48 F6D..F7E
  F80..F84 F86..F87 F8D..FBD FC6 FCD FDB..FFF 102D..1030 1032..1037 1039..103A 103D..103E
  1058..1059 105E..1060 1071..1074 1082 1085..1086 108D 109D 10C6 10C8..10CC 10CE..10CF 115F..1160
  1249 124E..124F 1257 1259 125E..125F 1289 128E..128F 12B1 12B6..12B7 12BF 12C1 12C6..12C7 12D7
  1311 1316..1317 135B..135F 137D..137F 139A..139F 13F6..13F7 13FE..13FF 1680 169D..169F
  16F9..16FF 1712..171E 1732..1734 1737..173F 1752..175F 176D 1771..177F 17B4..17B5 17B7..17BD
  17C6 17C9..17D3 17DD..17DF 17EA..17EF 17FA..17FF 180B..180F 181A..181F 1879..187F 1885..1886
  18A9 18AB..18AF 18F6..18FF 191F..1922 1927..1928 192C..192F 1932 1939..193F 1941..1943
  196E..196F 1975..197F 19AC..19AF 19CA..19CF 19DB..19DD 1A17..1A18 1A1B..1A1D 1A56 1A58..1A60
  1A62 1A65..1A6C 1A73..1A7F 1A8A..1A8F 1A9A..1A9F 1AAE..1B03 1B34..1B3D 1B42..1B44 1B4D
  1B6B..1B73 1B80..1B81 1BA2..1BA5 1BA8..1BAD 1BE6 1BE8..1BE9 1BED 1BEF..1BFB 1C2C..1C33
  1C36..1C3A 1C4A..1C4C 1C8B..1C8F 1CBB..1CBC 1CC8..1CD2 1CD4..1CE0 1CE2..1CE8 1CED 1CF4
  1CF8..1CF9 1CFB..1CFF 1DC0..1DFF 1F16..1F17 1F1E..1F1F 1F46..1F47 1F4E..1F4F 1F58 1F5A 1F5C 1F5E
  1F7E..1F7F 1FB5 1FC5 1FD4..1FD5 1FDC 1FF0..1FF1 1FF5 1FFF..200F 2028..202F 205F..206F 2072..2073
  208F 209D..209F 20C2..20FF 218C..218F 242A..243F 244B..245F 2B74..2B75 2CEF..2CF1 2CF4..2CF8
  2D26 2D28..2D2C 2D2E..2D2F 2D68..2D6E 2D71..2D7F 2D97..2D9F 2DA7 2DAF 2DB7 2DBF 2DC7 2DCF 2DD7
  2DDF..2DFF 2E5E..2E7F 2E9A 2EF4..2EFF 2FD6..2FEF 3000 302A..302F 3040 3097..309A 3100..3104 3130
  3164 318F 31E6..31EE 321F A48D..A48F A4C7..A4CF A62C..A63F A66F..A672 A674..A67D A69E..A69F
  A6F0..A6F1 A6F8..A6FF A7DD..A7F0 A802 A806 A80B A825..A826 A82C..A82F A83A..A83F A878..A87F
  A8C4..A8CD A8DA..A8F1 A8FF A926..A92D A947..A951 A953..A95E A97D..A982 A9B3 A9B6..A9B9
  A9BC..A9BD A9C0 A9CE A9DA..A9DD A9E5 A9FF AA29..AA2E AA31..AA32 AA35..AA3F AA43 AA4C AA4E..AA4F
  AA5A..AA5B AA7C AAB0 AAB2..AAB4 AAB7..AAB8 AABE..AABF AAC1 AAC3..AADA AAEC..AAED AAF6..AB00
  AB07..AB08 AB0F..AB10 AB17..AB1F AB27 AB2F AB6C..AB6F ABE5 ABE8 ABED..ABEF ABFA..ABFF D7A4..D7AF
  D7C7..D7CA D7FC..F8FF FA6E..FA6F FADA..FAFF FB07..FB12 FB18..FB1C FB1E FB37 FB3D FB3F FB42 FB45
  FDD0..FDEF FE00..FE0F FE1A..FE2F FE53 FE67 FE6C..FE6F FE75 FEFD..FF00 FFA0 FFBF..FFC1 FFC8..FFC9
  FFD0..FFD1 FFD8..FFD9 FFDD..FFDF FFE7 FFEF..FFFB FFFE..FFFF 1000C 10027 1003B 1003E 1004E..1004F
  1005E..1007F 100FB..100FF 10103..10106 10134..10136 1018F 1019D..1019F 101A1..101CF 101FD..1027F
  1029D..1029F 102D1..102E0 102FC..102FF 10324..1032C 1034B..1034F 10376..1037F 1039E 103C4..103C7
  103D6..103FF 1049E..1049F 104AA..104AF 104D4..104D7 104FC..104FF 10528..1052F 10564..1056E 1057B
  1058B 10593 10596 105A2 105B2 105BA 105BD..105BF 105F4..105FF 10737..1073F 10756..1075F
  10768..1077F 10786 107B1 107BB..107FF 10806..10807 10809 10836 10839..1083B 1083D..1083E 10856
  1089F..108A6 108B0..108DF 108F3 108F6..108FA 1091C..1091E 1093A..1093E 1095A..1097F 109B8..109BB
  109D0..109D1 10A01..10A0F 10A14 10A18 10A36..10A3F 10A49..10A4F 10A59..10A5F 10AA0..10ABF
  10AE5..10AEA 10AF7..10AFF 10B36..10B38 10B56..10B57 10B73..10B77 10B92..10B98 10B9D..10BA8
  10BB0..10BFF 10C49..10C7F 10CB3..10CBF 10CF3..10CF9 10D24..10D2F 10D3A..10D3F 10D66..10D6D
  10D86..10D8D 10D90..10E5F 10E7F 10EAA..10EAC 10EAE..10EAF 10EB2..10EC1 10EC8..10ECF 10ED9..10EFF
  10F28..10F2F 10F46..10F50 10F5A..10F6F 10F82..10F85 10F8A..10FAF 10FCC..10FDF 10FF7..10FFF 11001
  11038..11046 1104E..11051 11070 11073..11074 11076..11081 110B3..110B6 110B9..110BA 110BD
  110C2..110CF 110E9..110EF 110FA..11102 11127..1112B 1112D..11135 11148..1114F 11173 11177..11181
  111B6..111BE 111C0 111C9..111CC 111CF 111E0 111F5..111FF 11212 1122F..11231 11234..11237 1123E
  11241..1127F 11287 11289 1128E 1129E 112AA..112AF 112DF 112E3..112EF 112FA..11301 11304
  1130D..1130E 11311..11312 11329 11331 11334 1133A..1133C 1133E 11340 11345..11346 11349..1134A
  1134D..1134F 11351..1135C 11364..1137F 1138A 1138C..1138D 1138F 113B6 113B8 113BB..113C9 113CB
  113CE..113D0 113D2 113D6 113D9..113FF 11438..1143F 11442..11444 11446 1145C 1145E 11462..1147F
  114B0 114B3..114B8 114BA 114BD 114BF..114C0 114C2..114C3 114C8..114CF 114DA..1157F 115AF
  115B2..115B7 115BC..115BD 115BF..115C0 115DC..115FF 11633..1163A 1163D 1163F..11640 11645..1164F
  1165A..1165F 1166D..1167F 116AB 116AD 116B0..116B7 116BA..116BF 116CA..116CF 116E4..116FF
  1171B..1171D 1171F 11722..11725 11727..1172F 11747..117FF 1182F..11837 11839..1183A 1183C..1189F
  118F3..118FE 11907..11908 1190A..1190B 11914 11917 11930 11936 11939..1193E 11943 11947..1194F
  1195A..1199F 119A8..119A9 119D4..119DB 119E0 119E5..119FF 11A01..11A0A 11A33..11A38 11A3B..11A3E
  11A47..11A4F 11A51..11A56 11A59..11A5B 11A8A..11A96 11A98..11A99 11AA3..11AAF 11AF9..11AFF
  11B0A..11B60 11B62..11B64 11B66 11B68..11BBF 11BE2..11BEF 11BFA..11BFF 11C09 11C30..11C3D 11C3F
  11C46..11C4F 11C6D..11C6F 11C90..11CA8 11CAA..11CB0 11CB2..11CB3 11CB5..11CFF 11D07 11D0A
  11D31..11D45 11D47..11D4F 11D5A..11D5F 11D66 11D69 11D8F..11D92 11D95 11D97 11D99..11D9F
  11DAA..11DAF 11DDC..11DDF 11DEA..11EDF 11EF3..11EF4 11EF9..11F01 11F11 11F36..11F3D 11F40..11F42
  11F5A..11FAF 11FB1..11FBF 11FF2..11FFE 1239A..123FF 1246F 12475..1247F 12544..12F8F 12FF3..12FFF
  13430..13440 13447..1345F 143FB..143FF 14647..160FF 1611E..16129 1612D..1612F 1613A..167FF
  16A39..16A3F 16A5F 16A6A..16A6D 16ABF 16ACA..16ACF 16AEE..16AF4 16AF6..16AFF 16B30..16B36
  16B46..16B4F 16B5A 16B62 16B78..16B7C 16B90..16D3F 16D7A..16E3F 16E9B..16E9F 16EB9..16EBA
  16ED4..16EFF 16F4B..16F4F 16F88..16F92 16FA0..16FDF 16FE4..16FF1 16FF7..16FFF 18CD6..18CFE
  18D1F..18D7F 18DF3..1AFEF 1AFF4 1AFFC 1AFFF 1B123..1B131 1B133..1B14F 1B153..1B154 1B156..1B163
  1B168..1B16F 1B2FC..1BBFF 1BC6B..1BC6F 1BC7D..1BC7F 1BC89..1BC8F 1BC9A..1BC9B 1BC9D..1BC9E
  1BCA0..1CBFF 1CCFD..1CCFF 1CEB4..1CEB9 1CED1..1CEDF 1CEF1..1CF4F 1CFC4..1CFFF 1D0F6..1D0FF
  1D127..1D128 1D165..1D169 1D16D..1D182 1D185..1D18B 1D1AA..1D1AD 1D1EB..1D1FF 1D242..1D244
  1D246..1D2BF 1D2D4..1D2DF 1D2F4..1D2FF 1D357..1D35F 1D379..1D3FF 1D455 1D49D 1D4A0..1D4A1
  1D4A3..1D4A4 1D4A7..1D4A8 1D4AD 1D4BA 1D4BC 1D4C4 1D506 1D50B..1D50C 1D515 1D51D 1D53A 1D53F
  1D545 1D547..1D549 1D551 1D6A6..1D6A7 1D7CC..1D7CD 1DA00..1DA36 1DA3B..1DA6C 1DA75 1DA84
  1DA8C..1DEFF 1DF1F..1DF24 1DF2B..1E02F 1E06E..1E0FF 1E12D..1E136 1E13E..1E13F 1E14A..1E14D
  1E150..1E28F 1E2AE..1E2BF 1E2EC..1E2EF 1E2FA..1E2FE 1E300..1E4CF 1E4EC..1E4EF 1E4FA..1E5CF
  1E5EE..1E5EF 1E5FB..1E5FE 1E600..1E6BF 1E6DF 1E6E3 1E6E6 1E6EE..1E6EF 1E6F5..1E6FD 1E700..1E7DF
  1E7E7 1E7EC 1E7EF 1E7FF 1E8C5..1E8C6 1E8D0..1E8FF 1E944..1E94A 1E94C..1E94F 1E95A..1E95D
  1E960..1EC70 1ECB5..1ED00 1ED3E..1EDFF 1EE04 1EE20 1EE23 1EE25..1EE26 1EE28 1EE33 1EE38 1EE3A
  1EE3C..1EE41 1EE43..1EE46 1EE48 1EE4A 1EE4C 1EE50 1EE53 1EE55..1EE56 1EE58 1EE5A 1EE5C 1EE5E
  1EE60 1EE63 1EE65..1EE66 1EE6B 1EE73 1EE78 1EE7D 1EE7F 1EE8A 1EE9C..1EEA0 1EEA4 1EEAA
  1EEBC..1EEEF 1EEF2..1EFFF 1F02C..1F02F 1F094..1F09F 1F0AF..1F0B0 1F0C0 1F0D0 1F0F6..1F0FF
  1F1AE..1F1E5 1F203..1F20F 1F23C..1F23F 1F249..1F24F 1F252..1F25F 1F266..1F2FF 1F6D9..1F6DB
  1F6ED..1F6EF 1F6FD..1F6FF 1F7DA..1F7DF 1F7EC..1F7EF 1F7F1..1F7FF 1F80C..1F80F 1F848..1F84F
  1F85A..1F85F 1F888..1F88F 1F8AE..1F8AF 1F8BC..1F8BF 1F8C2..1F8CF 1F8D9..1F8FF 1FA58..1FA5F
  1FA6E..1FA6F 1FA7D..1FA7F 1FA8B..1FA8D 1FAC7 1FAC9..1FACC 1FADD..1FADE 1FAEB..1FAEE 1FAF9..1FAFF
  1FB93 1FBFB..1FFFF 2A6E0..2A6FF 2B81E..2B81F 2CEAE..2CEAF 2EBE1..2EBEF 2EE5E..2F7FF 2FA1E..2FFFF
  3134B..3134F 3347A..10FFFF"

/-- The characters without a visible form of their own. -/
def invisible : RangeTable := RangeTable.parse invisibleTable

/-- A code point in hexadecimal between braces. -/
def codePoint (c : Char) : List Char :=
  ['\\', 'u', '\x7b'] ++ Nat.toDigits 16 c.toNat ++ ['\x7d']

/-- One character as it stands between quotes. -/
def escape (c : Char) : List Char :=
  if c = '"' then ['\\', '"']
  else if c = '\\' then ['\\', '\\']
  else if c = '\n' then ['\\', 'n']
  else if c = '\r' then ['\\', 'r']
  else if c = '\t' then ['\\', 't']
  else if c = '\x00' then ['\\', '0']
  else if invisible.contains c then codePoint c
  else [c]

/-- **Text between quotes.** -/
def quote (s : String) : String :=
  String.ofList ('"' :: s.toList.flatMap escape ++ ['"'])

end Quoted

end HttpLoad
