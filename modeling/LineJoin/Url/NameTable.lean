import LineJoin.Text.Basic

/-!
# Characters of host names

The characters beyond ASCII that a label of a host name may hold: small letters, letters without
case, digits and marks, each in the form that normalisation leaves alone. Labels are in lower case
before they are looked up, so capital letters are not told apart here; nor are code points without a
character.
-/

namespace LineJoin.Url

/-- The ranges of the characters that a label may hold, in increasing order, both ends included. -/
def nameRanges : List (Nat × Nat) := [
  (0x00DF, 0x00F6), (0x00F8, 0x0131), (0x0135, 0x013E), (0x0142, 0x0148), (0x014B, 0x017E),
  (0x0180, 0x01C3), (0x01CE, 0x01F0), (0x01F5, 0x02AF), (0x02B9, 0x02C1), (0x02C6, 0x02D1),
  (0x02EC, 0x02EC), (0x02EE, 0x02EE), (0x0300, 0x033F), (0x0342, 0x0342), (0x0346, 0x034E),
  (0x0350, 0x0373), (0x0377, 0x0377), (0x037B, 0x037D), (0x0390, 0x03CE), (0x03D7, 0x03EF),
  (0x03F3, 0x03F3), (0x03F8, 0x0481), (0x0483, 0x0487), (0x048B, 0x0559), (0x0560, 0x0586),
  (0x0588, 0x0588), (0x0591, 0x05BD), (0x05BF, 0x05BF), (0x05C1, 0x05C2), (0x05C4, 0x05C5),
  (0x05C7, 0x05F2), (0x0610, 0x061A), (0x0620, 0x063F), (0x0641, 0x065F), (0x066E, 0x0674),
  (0x0679, 0x06D3), (0x06D5, 0x06DC), (0x06DF, 0x06E8), (0x06EA, 0x06EF), (0x06FA, 0x06FF),
  (0x0710, 0x07F5), (0x07FD, 0x07FD), (0x0800, 0x082D), (0x0840, 0x085B), (0x0860, 0x0887),
  (0x0889, 0x088F), (0x0897, 0x08E1), (0x08E3, 0x0957), (0x0960, 0x0963), (0x0966, 0x096F),
  (0x0971, 0x09D7), (0x09E0, 0x09F1), (0x09FC, 0x09FC), (0x09FE, 0x0A32), (0x0A35, 0x0A35),
  (0x0A38, 0x0A51), (0x0A5C, 0x0A5C), (0x0A66, 0x0A75), (0x0A81, 0x0AEF), (0x0AF9, 0x0B57),
  (0x0B5F, 0x0B6F), (0x0B71, 0x0B71), (0x0B82, 0x0BEF), (0x0C00, 0x0C6F), (0x0C80, 0x0C83),
  (0x0C85, 0x0D4E), (0x0D54, 0x0D57), (0x0D5F, 0x0D6F), (0x0D7A, 0x0DF3), (0x0E01, 0x0E32),
  (0x0E34, 0x0E3A), (0x0E40, 0x0E4E), (0x0E50, 0x0E59), (0x0E81, 0x0EB2), (0x0EB4, 0x0ED9),
  (0x0EDE, 0x0F00), (0x0F0B, 0x0F0B), (0x0F18, 0x0F19), (0x0F20, 0x0F29), (0x0F35, 0x0F35),
  (0x0F37, 0x0F37), (0x0F39, 0x0F39), (0x0F3E, 0x0F42), (0x0F44, 0x0F4C), (0x0F4E, 0x0F51),
  (0x0F53, 0x0F56), (0x0F58, 0x0F5B), (0x0F5D, 0x0F68), (0x0F6A, 0x0F72), (0x0F74, 0x0F74),
  (0x0F7A, 0x0F80), (0x0F82, 0x0F84), (0x0F86, 0x0F92), (0x0F94, 0x0F9C), (0x0F9E, 0x0FA1),
  (0x0FA3, 0x0FA6), (0x0FA8, 0x0FAB), (0x0FAD, 0x0FB8), (0x0FBA, 0x0FBC), (0x0FC6, 0x0FC6),
  (0x1000, 0x1049), (0x1050, 0x109D), (0x10D0, 0x10FA), (0x10FD, 0x10FF), (0x1200, 0x135F),
  (0x1380, 0x138F), (0x13A0, 0x13F5), (0x1401, 0x166C), (0x166F, 0x167F), (0x1681, 0x169A),
  (0x16A0, 0x16EA), (0x16F1, 0x1734), (0x1740, 0x17B3), (0x17B6, 0x17D3), (0x17D7, 0x17D7),
  (0x17DC, 0x17E9), (0x1810, 0x193B), (0x1946, 0x19D9), (0x1A00, 0x1A1B), (0x1A20, 0x1A99),
  (0x1AA7, 0x1AA7), (0x1AB0, 0x1ABD), (0x1ABF, 0x1B59), (0x1B6B, 0x1B73), (0x1B80, 0x1BF3),
  (0x1C00, 0x1C37), (0x1C40, 0x1C7D), (0x1C8A, 0x1C8A), (0x1CD0, 0x1CD2), (0x1CD4, 0x1D2B),
  (0x1D2F, 0x1D2F), (0x1D3B, 0x1D3B), (0x1D4E, 0x1D4E), (0x1D6B, 0x1D77), (0x1D79, 0x1D9A),
  (0x1DC0, 0x1E99), (0x1E9C, 0x1F70), (0x1F72, 0x1F72), (0x1F74, 0x1F74), (0x1F76, 0x1F76),
  (0x1F78, 0x1F78), (0x1F7A, 0x1F7A), (0x1F7C, 0x1F7C), (0x1FB0, 0x1FB1), (0x1FB6, 0x1FB6),
  (0x1FC6, 0x1FC6), (0x1FD0, 0x1FD2), (0x1FD6, 0x1FD7), (0x1FE0, 0x1FE2), (0x1FE4, 0x1FE7),
  (0x1FF6, 0x1FF6), (0x214E, 0x214E), (0x2184, 0x2184), (0x2C30, 0x2C7B), (0x2C81, 0x2CE4),
  (0x2CEC, 0x2CF3), (0x2D00, 0x2D67), (0x2D7F, 0x2DFF), (0x2E2F, 0x2E2F), (0x3005, 0x3007),
  (0x302A, 0x302D), (0x303C, 0x303C), (0x3041, 0x309A), (0x309D, 0x309E), (0x30A1, 0x30FA),
  (0x30FC, 0x30FE), (0x3105, 0x312F), (0x31A0, 0x31BF), (0x31F0, 0x31FF), (0x3400, 0x4DBF),
  (0x4E00, 0xA48C), (0xA4D0, 0xA4FD), (0xA500, 0xA60C), (0xA610, 0xA66F), (0xA674, 0xA67D),
  (0xA67F, 0xA69B), (0xA69E, 0xA6E5), (0xA6F0, 0xA6F1), (0xA717, 0xA71F), (0xA723, 0xA76F),
  (0xA771, 0xA788), (0xA78C, 0xA7DB), (0xA7F6, 0xA7F7), (0xA7FA, 0xA827), (0xA82C, 0xA82C),
  (0xA840, 0xA873), (0xA880, 0xA8C5), (0xA8D0, 0xA8F7), (0xA8FB, 0xA8FB), (0xA8FD, 0xA92D),
  (0xA930, 0xA953), (0xA980, 0xA9C0), (0xA9CF, 0xA9D9), (0xA9E0, 0xAA59), (0xAA60, 0xAA76),
  (0xAA7A, 0xAADD), (0xAAE0, 0xAAEF), (0xAAF2, 0xAB5A), (0xAB60, 0xAB68), (0xABC0, 0xABEA),
  (0xABEC, 0xD7A3), (0xFA0E, 0xFA0F), (0xFA11, 0xFA11), (0xFA13, 0xFA14), (0xFA1F, 0xFA1F),
  (0xFA21, 0xFA21), (0xFA23, 0xFA24), (0xFA27, 0xFA29), (0xFB1E, 0xFB1E), (0xFE20, 0xFE2F),
  (0xFE73, 0xFE73), (0x10000, 0x100FA), (0x101FD, 0x102E0), (0x10300, 0x1031F), (0x1032D, 0x10340),
  (0x10342, 0x10349), (0x10350, 0x1039D), (0x103A0, 0x103CF), (0x10428, 0x10563),
  (0x10597, 0x10780), (0x10800, 0x10855), (0x10860, 0x10876), (0x10880, 0x1089E),
  (0x108E0, 0x108F5), (0x10900, 0x10915), (0x10920, 0x10939), (0x10940, 0x109B7),
  (0x109BE, 0x109BF), (0x10A00, 0x10A3F), (0x10A60, 0x10A7C), (0x10A80, 0x10A9C),
  (0x10AC0, 0x10AC7), (0x10AC9, 0x10AE6), (0x10B00, 0x10B35), (0x10B40, 0x10B55),
  (0x10B60, 0x10B72), (0x10B80, 0x10B91), (0x10C00, 0x10CF2), (0x10D00, 0x10D85),
  (0x10E80, 0x10EAC), (0x10EB0, 0x10F1C), (0x10F27, 0x10F50), (0x10F70, 0x10F85),
  (0x10FB0, 0x10FC4), (0x10FE0, 0x11046), (0x11066, 0x110BA), (0x110C2, 0x110C2),
  (0x110D0, 0x1113F), (0x11144, 0x11173), (0x11176, 0x111C4), (0x111C9, 0x111CC),
  (0x111CE, 0x111DA), (0x111DC, 0x111DC), (0x11200, 0x11237), (0x1123E, 0x112A8),
  (0x112B0, 0x1144A), (0x11450, 0x11459), (0x1145E, 0x114C5), (0x114C7, 0x115C0),
  (0x115D8, 0x11640), (0x11644, 0x11659), (0x11680, 0x116B8), (0x116C0, 0x11739),
  (0x11740, 0x1183A), (0x118C0, 0x118E9), (0x118FF, 0x11943), (0x11950, 0x119E1),
  (0x119E3, 0x11A3E), (0x11A47, 0x11A99), (0x11A9D, 0x11A9D), (0x11AB0, 0x11C40),
  (0x11C50, 0x11C59), (0x11C72, 0x11EF6), (0x11F00, 0x11FB0), (0x12000, 0x12399),
  (0x12480, 0x12FF0), (0x13000, 0x1342F), (0x13440, 0x16A69), (0x16A70, 0x16AF4),
  (0x16B00, 0x16B36), (0x16B40, 0x16B43), (0x16B50, 0x16B59), (0x16B63, 0x16E7F),
  (0x16EBB, 0x16FE1), (0x16FE3, 0x1BC99), (0x1BC9D, 0x1BC9E), (0x1CF00, 0x1CF46),
  (0x1DA00, 0x1DA36), (0x1DA3B, 0x1DA6C), (0x1DA75, 0x1DA75), (0x1DA84, 0x1DA84),
  (0x1DA9B, 0x1E14E), (0x1E290, 0x1E2F9), (0x1E4D0, 0x1E8C4), (0x1E8D0, 0x1E959),
  (0x20000, 0x2EE5D), (0x30000, 0x33479)]

/-- The ranges of kana and Han characters, among which a middle dot may stand. -/
def kanaRanges : List (Nat × Nat) := [
  (0x3005, 0x3005), (0x3007, 0x3007), (0x3021, 0x3029), (0x3038, 0x303B), (0x3041, 0x3096),
  (0x309D, 0x309F), (0x30A1, 0x30FA), (0x30FD, 0x30FF), (0x31F0, 0x31FF), (0x3400, 0x4DBF),
  (0x4E00, 0x9FFF), (0xF900, 0xFAD9), (0xFF66, 0xFF6F), (0xFF71, 0xFF9D), (0x1B000, 0x1B122),
  (0x20000, 0x3134A)]

end LineJoin.Url
