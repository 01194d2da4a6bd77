import FieldCheck.Text.CodeMap

namespace FieldCheck.Domain

/-- Compatibility forms up to the radicals of ideographs, and letters that keep their upper
case, by the mapping of Unicode 17.0 for domain names where it differs from lower case and
canonical equivalence. -/
def earlierShifts : List Text.CodeShift :=
  [⟨0xA0, 0xA0, 1, -128⟩, ⟨0xAA, 0xAA, 1, -73⟩, ⟨0xB2, 0xB3, 1, -128⟩, ⟨0xB5, 0xB5, 1, 775⟩,
   ⟨0xB9, 0xB9, 1, -136⟩, ⟨0xBA, 0xBA, 1, -75⟩, ⟨0x17F, 0x17F, 1, -268⟩, ⟨0x2B0, 0x2B0, 1, -584⟩,
   ⟨0x2B1, 0x2B1, 1, -75⟩, ⟨0x2B2, 0x2B2, 1, -584⟩, ⟨0x2B3, 0x2B3, 1, -577⟩,
   ⟨0x2B4, 0x2B4, 1, -59⟩, ⟨0x2B5, 0x2B5, 1, -58⟩, ⟨0x2B6, 0x2B6, 1, -53⟩,
   ⟨0x2B7, 0x2B7, 1, -576⟩, ⟨0x2B8, 0x2B8, 1, -575⟩, ⟨0x2E0, 0x2E0, 1, -125⟩,
   ⟨0x2E1, 0x2E1, 1, -629⟩, ⟨0x2E2, 0x2E2, 1, -623⟩, ⟨0x2E3, 0x2E3, 1, -619⟩,
   ⟨0x2E4, 0x2E4, 1, -79⟩, ⟨0x345, 0x345, 1, 116⟩, ⟨0x3D0, 0x3D0, 1, -30⟩, ⟨0x3D1, 0x3D1, 1, -25⟩,
   ⟨0x3D2, 0x3D2, 1, -13⟩, ⟨0x3D3, 0x3D3, 1, -6⟩, ⟨0x3D4, 0x3D4, 1, -9⟩, ⟨0x3D5, 0x3D5, 1, -15⟩,
   ⟨0x3D6, 0x3D6, 1, -22⟩, ⟨0x3F0, 0x3F0, 1, -54⟩, ⟨0x3F1, 0x3F1, 1, -48⟩, ⟨0x3F2, 0x3F2, 1, -47⟩,
   ⟨0x3F5, 0x3F5, 1, -64⟩, ⟨0x3F9, 0x3F9, 1, -54⟩, ⟨0xF0C, 0xF0C, 1, -1⟩,
   ⟨0x10FC, 0x10FC, 1, -32⟩, ⟨0x13A0, 0x13F5, 1, 0⟩, ⟨0x13F8, 0x13FD, 1, -8⟩,
   ⟨0x1C80, 0x1C80, 1, -6222⟩, ⟨0x1C81, 0x1C81, 1, -6221⟩, ⟨0x1C82, 0x1C82, 1, -6212⟩,
   ⟨0x1C83, 0x1C84, 1, -6210⟩, ⟨0x1C85, 0x1C85, 1, -6211⟩, ⟨0x1C86, 0x1C86, 1, -6204⟩,
   ⟨0x1C87, 0x1C87, 1, -6180⟩, ⟨0x1C88, 0x1C88, 1, 35267⟩, ⟨0x1D2C, 0x1D2C, 1, -7371⟩,
   ⟨0x1D2D, 0x1D2D, 1, -7239⟩, ⟨0x1D2E, 0x1D30, 2, -7372⟩, ⟨0x1D31, 0x1D31, 1, -7372⟩,
   ⟨0x1D32, 0x1D32, 1, -6997⟩, ⟨0x1D33, 0x1D3A, 1, -7372⟩, ⟨0x1D3C, 0x1D3C, 1, -7373⟩,
   ⟨0x1D3D, 0x1D3D, 1, -6938⟩, ⟨0x1D3E, 0x1D3E, 1, -7374⟩, ⟨0x1D3F, 0x1D3F, 1, -7373⟩,
   ⟨0x1D40, 0x1D41, 1, -7372⟩, ⟨0x1D42, 0x1D42, 1, -7371⟩, ⟨0x1D43, 0x1D43, 1, -7394⟩,
   ⟨0x1D44, 0x1D45, 1, -6900⟩, ⟨0x1D46, 0x1D46, 1, -68⟩, ⟨0x1D47, 0x1D47, 1, -7397⟩,
   ⟨0x1D48, 0x1D49, 1, -7396⟩, ⟨0x1D4A, 0x1D4A, 1, -6897⟩, ⟨0x1D4B, 0x1D4C, 1, -6896⟩,
   ⟨0x1D4D, 0x1D4D, 1, -7398⟩, ⟨0x1D4F, 0x1D4F, 1, -7396⟩, ⟨0x1D50, 0x1D50, 1, -7395⟩,
   ⟨0x1D51, 0x1D51, 1, -7174⟩, ⟨0x1D52, 0x1D52, 1, -7395⟩, ⟨0x1D53, 0x1D53, 1, -6911⟩,
   ⟨0x1D54, 0x1D55, 1, -62⟩, ⟨0x1D56, 0x1D56, 1, -7398⟩, ⟨0x1D57, 0x1D58, 1, -7395⟩,
   ⟨0x1D59, 0x1D59, 1, -60⟩, ⟨0x1D5A, 0x1D5A, 1, -6891⟩, ⟨0x1D5B, 0x1D5B, 1, -7397⟩,
   ⟨0x1D5C, 0x1D5C, 1, -55⟩, ⟨0x1D5D, 0x1D5F, 1, -6571⟩, ⟨0x1D60, 0x1D61, 1, -6554⟩,
   ⟨0x1D62, 0x1D62, 1, -7417⟩, ⟨0x1D63, 0x1D63, 1, -7409⟩, ⟨0x1D64, 0x1D65, 1, -7407⟩,
   ⟨0x1D66, 0x1D67, 1, -6580⟩, ⟨0x1D68, 0x1D68, 1, -6567⟩, ⟨0x1D69, 0x1D6A, 1, -6563⟩,
   ⟨0x1D78, 0x1D78, 1, -6459⟩, ⟨0x1D9B, 0x1D9B, 1, -6985⟩, ⟨0x1D9C, 0x1D9C, 1, -7481⟩,
   ⟨0x1D9D, 0x1D9D, 1, -6984⟩, ⟨0x1D9E, 0x1D9E, 1, -7342⟩, ⟨0x1D9F, 0x1D9F, 1, -6979⟩,
   ⟨0x1DA0, 0x1DA0, 1, -7482⟩, ⟨0x1DA1, 0x1DA1, 1, -6978⟩, ⟨0x1DA2, 0x1DA2, 1, -6977⟩,
   ⟨0x1DA3, 0x1DA3, 1, -6974⟩, ⟨0x1DA4, 0x1DA6, 1, -6972⟩, ⟨0x1DA7, 0x1DA7, 1, -44⟩,
   ⟨0x1DA8, 0x1DA8, 1, -6923⟩, ⟨0x1DA9, 0x1DA9, 1, -6972⟩, ⟨0x1DAA, 0x1DAA, 1, -37⟩,
   ⟨0x1DAB, 0x1DAB, 1, -6924⟩, ⟨0x1DAC, 0x1DAC, 1, -6971⟩, ⟨0x1DAD, 0x1DAD, 1, -6973⟩,
   ⟨0x1DAE, 0x1DB1, 1, -6972⟩, ⟨0x1DB2, 0x1DB2, 1, -6970⟩, ⟨0x1DB3, 0x1DB4, 1, -6961⟩,
   ⟨0x1DB5, 0x1DB5, 1, -7178⟩, ⟨0x1DB6, 0x1DB7, 1, -6957⟩, ⟨0x1DB8, 0x1DB8, 1, -156⟩,
   ⟨0x1DB9, 0x1DBA, 1, -6958⟩, ⟨0x1DBB, 0x1DBB, 1, -7489⟩, ⟨0x1DBC, 0x1DBE, 1, -6956⟩,
   ⟨0x1DBF, 0x1DBF, 1, -6663⟩, ⟨0x1E9B, 0x1E9B, 1, -58⟩, ⟨0x2000, 0x2000, 1, -8160⟩,
   ⟨0x2001, 0x2001, 1, -8161⟩, ⟨0x2002, 0x2002, 1, -8162⟩, ⟨0x2003, 0x2003, 1, -8163⟩,
   ⟨0x2004, 0x2004, 1, -8164⟩, ⟨0x2005, 0x2005, 1, -8165⟩, ⟨0x2006, 0x2006, 1, -8166⟩,
   ⟨0x2007, 0x2007, 1, -8167⟩, ⟨0x2008, 0x2008, 1, -8168⟩, ⟨0x2009, 0x2009, 1, -8169⟩,
   ⟨0x200A, 0x200A, 1, -8170⟩, ⟨0x2011, 0x2011, 1, -1⟩, ⟨0x202F, 0x202F, 1, -8207⟩,
   ⟨0x205F, 0x205F, 1, -8255⟩, ⟨0x2070, 0x2070, 1, -8256⟩, ⟨0x2071, 0x2071, 1, -8200⟩,
   ⟨0x2074, 0x2079, 1, -8256⟩, ⟨0x207A, 0x207A, 1, -8271⟩, ⟨0x207B, 0x207B, 1, 407⟩,
   ⟨0x207C, 0x207C, 1, -8255⟩, ⟨0x207D, 0x207E, 1, -8277⟩, ⟨0x207F, 0x207F, 1, -8209⟩,
   ⟨0x2080, 0x2089, 1, -8272⟩, ⟨0x208A, 0x208A, 1, -8287⟩, ⟨0x208B, 0x208B, 1, 391⟩,
   ⟨0x208C, 0x208C, 1, -8271⟩, ⟨0x208D, 0x208E, 1, -8293⟩, ⟨0x2090, 0x2090, 1, -8239⟩,
   ⟨0x2091, 0x2091, 1, -8236⟩, ⟨0x2092, 0x2092, 1, -8227⟩, ⟨0x2093, 0x2093, 1, -8219⟩,
   ⟨0x2094, 0x2094, 1, -7739⟩, ⟨0x2095, 0x2095, 1, -8237⟩, ⟨0x2096, 0x2099, 1, -8235⟩,
   ⟨0x209A, 0x209A, 1, -8234⟩, ⟨0x209B, 0x209C, 1, -8232⟩, ⟨0x2102, 0x2102, 1, -8351⟩,
   ⟨0x2107, 0x2107, 1, -7852⟩, ⟨0x210A, 0x210B, 1, -8355⟩, ⟨0x210C, 0x210C, 1, -8356⟩,
   ⟨0x210D, 0x210D, 1, -8357⟩, ⟨0x210E, 0x210E, 1, -8358⟩, ⟨0x210F, 0x210F, 1, -8168⟩,
   ⟨0x2110, 0x2110, 1, -8359⟩, ⟨0x2111, 0x2111, 1, -8360⟩, ⟨0x2112, 0x2112, 1, -8358⟩,
   ⟨0x2113, 0x2115, 2, -8359⟩, ⟨0x2119, 0x211B, 1, -8361⟩, ⟨0x211C, 0x211C, 1, -8362⟩,
   ⟨0x211D, 0x211D, 1, -8363⟩, ⟨0x2124, 0x2124, 1, -8362⟩, ⟨0x2128, 0x2128, 1, -8366⟩,
   ⟨0x212C, 0x212D, 1, -8394⟩, ⟨0x212F, 0x212F, 1, -8394⟩, ⟨0x2130, 0x2131, 1, -8395⟩,
   ⟨0x2133, 0x2133, 1, -8390⟩, ⟨0x2134, 0x2134, 1, -8389⟩, ⟨0x2135, 0x2138, 1, -7013⟩,
   ⟨0x2139, 0x2139, 1, -8400⟩, ⟨0x213C, 0x213C, 1, -7548⟩, ⟨0x213D, 0x213D, 1, -7562⟩,
   ⟨0x213E, 0x213E, 1, -7563⟩, ⟨0x213F, 0x213F, 1, -7551⟩, ⟨0x2140, 0x2140, 1, 209⟩,
   ⟨0x2145, 0x2145, 1, -8417⟩, ⟨0x2146, 0x2147, 1, -8418⟩, ⟨0x2148, 0x2149, 1, -8415⟩,
   ⟨0x2160, 0x2160, 1, -8439⟩, ⟨0x2164, 0x2164, 1, -8430⟩, ⟨0x2169, 0x2169, 1, -8433⟩,
   ⟨0x216C, 0x216C, 1, -8448⟩, ⟨0x216D, 0x216E, 1, -8458⟩, ⟨0x216F, 0x216F, 1, -8450⟩,
   ⟨0x2170, 0x2170, 1, -8455⟩, ⟨0x2174, 0x2174, 1, -8446⟩, ⟨0x2179, 0x2179, 1, -8449⟩,
   ⟨0x217C, 0x217C, 1, -8464⟩, ⟨0x217D, 0x217E, 1, -8474⟩, ⟨0x217F, 0x217F, 1, -8466⟩,
   ⟨0x2460, 0x2468, 1, -9263⟩, ⟨0x24B6, 0x24CF, 1, -9301⟩, ⟨0x24D0, 0x24E9, 1, -9327⟩,
   ⟨0x24EA, 0x24EA, 1, -9402⟩, ⟨0x2C7C, 0x2C7C, 1, -11282⟩, ⟨0x2C7D, 0x2C7D, 1, -11271⟩,
   ⟨0x2D6F, 0x2D6F, 1, -14⟩, ⟨0x2E9F, 0x2E9F, 1, 15662⟩, ⟨0x2EF3, 0x2EF3, 1, 28844⟩,
   ⟨0x2F00, 0x2F00, 1, 7936⟩, ⟨0x2F01, 0x2F01, 1, 7975⟩, ⟨0x2F02, 0x2F02, 1, 7988⟩,
   ⟨0x2F03, 0x2F03, 1, 7996⟩, ⟨0x2F04, 0x2F04, 1, 8021⟩, ⟨0x2F05, 0x2F05, 1, 8064⟩,
   ⟨0x2F06, 0x2F06, 1, 8070⟩, ⟨0x2F07, 0x2F07, 1, 8089⟩, ⟨0x2F08, 0x2F08, 1, 8114⟩,
   ⟨0x2F09, 0x2F09, 1, 8758⟩, ⟨0x2F0A, 0x2F0A, 1, 8795⟩, ⟨0x2F0B, 0x2F0B, 1, 8800⟩,
   ⟨0x2F0C, 0x2F0C, 1, 8822⟩, ⟨0x2F0D, 0x2F0D, 1, 8841⟩, ⟨0x2F0E, 0x2F0E, 1, 8861⟩,
   ⟨0x2F0F, 0x2F0F, 1, 8913⟩, ⟨0x2F10, 0x2F10, 1, 8933⟩, ⟨0x2F11, 0x2F11, 1, 8943⟩,
   ⟨0x2F12, 0x2F12, 1, 9097⟩, ⟨0x2F13, 0x2F13, 1, 9190⟩, ⟨0x2F14, 0x2F14, 1, 9217⟩,
   ⟨0x2F15, 0x2F15, 1, 9221⟩, ⟨0x2F16, 0x2F16, 1, 9250⟩, ⟨0x2F17, 0x2F17, 1, 9258⟩,
   ⟨0x2F18, 0x2F18, 1, 9284⟩, ⟨0x2F19, 0x2F19, 1, 9296⟩, ⟨0x2F1A, 0x2F1A, 1, 9320⟩,
   ⟨0x2F1B, 0x2F1B, 1, 9371⟩, ⟨0x2F1C, 0x2F1C, 1, 9388⟩, ⟨0x2F1D, 0x2F1D, 1, 9414⟩,
   ⟨0x2F1E, 0x2F1E, 1, 10169⟩, ⟨0x2F1F, 0x2F1F, 1, 10240⟩, ⟨0x2F20, 0x2F20, 1, 10699⟩,
   ⟨0x2F21, 0x2F21, 1, 10721⟩, ⟨0x2F22, 0x2F22, 1, 10728⟩, ⟨0x2F23, 0x2F23, 1, 10738⟩,
   ⟨0x2F24, 0x2F24, 1, 10755⟩, ⟨0x2F25, 0x2F25, 1, 10830⟩, ⟨0x2F26, 0x2F26, 1, 11306⟩,
   ⟨0x2F27, 0x2F27, 1, 11353⟩, ⟨0x2F28, 0x2F28, 1, 11472⟩, ⟨0x2F29, 0x2F29, 1, 11494⟩,
   ⟨0x2F2A, 0x2F2A, 1, 11512⟩, ⟨0x2F2B, 0x2F2B, 1, 11533⟩, ⟨0x2F2C, 0x2F2C, 1, 11586⟩,
   ⟨0x2F2D, 0x2F2D, 1, 11588⟩, ⟨0x2F2E, 0x2F2E, 1, 11949⟩, ⟨0x2F2F, 0x2F2F, 1, 11958⟩,
   ⟨0x2F30, 0x2F30, 1, 11969⟩, ⟨0x2F31, 0x2F31, 1, 11981⟩, ⟨0x2F32, 0x2F32, 1, 12096⟩,
   ⟨0x2F33, 0x2F33, 1, 12103⟩, ⟨0x2F34, 0x2F34, 1, 12107⟩, ⟨0x2F35, 0x2F35, 1, 12223⟩,
   ⟨0x2F36, 0x2F36, 1, 12232⟩, ⟨0x2F37, 0x2F37, 1, 12244⟩, ⟨0x2F38, 0x2F38, 1, 12251⟩,
   ⟨0x2F39, 0x2F39, 1, 12311⟩, ⟨0x2F3A, 0x2F3A, 1, 12327⟩, ⟨0x2F3B, 0x2F3B, 1, 12344⟩,
   ⟨0x2F3C, 0x2F3C, 1, 12423⟩, ⟨0x2F3D, 0x2F3D, 1, 13003⟩, ⟨0x2F3E, 0x2F3E, 1, 13048⟩,
   ⟨0x2F3F, 0x2F3F, 1, 13068⟩, ⟨0x2F40, 0x2F40, 1, 13807⟩, ⟨0x2F41, 0x2F41, 1, 13811⟩,
   ⟨0x2F42, 0x2F42, 1, 13893⟩, ⟨0x2F43, 0x2F43, 1, 13908⟩, ⟨0x2F44, 0x2F44, 1, 13920⟩,
   ⟨0x2F45, 0x2F45, 1, 13940⟩, ⟨0x2F46, 0x2F46, 1, 13978⟩, ⟨0x2F47, 0x2F47, 1, 13982⟩,
   ⟨0x2F48, 0x2F48, 1, 14248⟩, ⟨0x2F49, 0x2F49, 1, 14271⟩, ⟨0x2F4A, 0x2F4A, 1, 14302⟩,
   ⟨0x2F4B, 0x2F4B, 1, 15317⟩, ⟨0x2F4C, 0x2F4C, 1, 15382⟩, ⟨0x2F4D, 0x2F4D, 1, 15404⟩,
   ⟨0x2F4E, 0x2F4E, 1, 15461⟩, ⟨0x2F4F, 0x2F4F, 1, 15484⟩, ⟨0x2F50, 0x2F50, 1, 15492⟩,
   ⟨0x2F51, 0x2F51, 1, 15498⟩, ⟨0x2F52, 0x2F52, 1, 15549⟩, ⟨0x2F53, 0x2F53, 1, 15553⟩,
   ⟨0x2F54, 0x2F54, 1, 15584⟩, ⟨0x2F55, 0x2F55, 1, 16662⟩, ⟨0x2F56, 0x2F56, 1, 17108⟩,
   ⟨0x2F57, 0x2F57, 1, 17119⟩, ⟨0x2F58, 0x2F58, 1, 17123⟩, ⟨0x2F59, 0x2F59, 1, 17126⟩,
   ⟨0x2F5A, 0x2F5A, 1, 17133⟩, ⟨0x2F5B, 0x2F5B, 1, 17150⟩, ⟨0x2F5C, 0x2F5C, 1, 17151⟩,
   ⟨0x2F5D, 0x2F5D, 1, 17231⟩, ⟨0x2F5E, 0x2F5E, 1, 17446⟩, ⟨0x2F5F, 0x2F5F, 1, 17450⟩,
   ⟨0x2F60, 0x2F60, 1, 17788⟩, ⟨0x2F61, 0x2F61, 1, 17797⟩, ⟨0x2F62, 0x2F62, 1, 17846⟩,
   ⟨0x2F63, 0x2F63, 1, 17852⟩, ⟨0x2F64, 0x2F64, 1, 17860⟩, ⟨0x2F65, 0x2F65, 1, 17867⟩,
   ⟨0x2F66, 0x2F66, 1, 17957⟩, ⟨0x2F67, 0x2F67, 1, 17963⟩, ⟨0x2F68, 0x2F68, 1, 18190⟩,
   ⟨0x2F69, 0x2F69, 1, 18196⟩, ⟨0x2F6A, 0x2F6A, 1, 18244⟩, ⟨0x2F6B, 0x2F6B, 1, 18260⟩,
   ⟨0x2F6C, 0x2F6C, 1, 18306⟩, ⟨0x2F6D, 0x2F6D, 1, 18542⟩, ⟨0x2F6E, 0x2F6E, 1, 18548⟩,
   ⟨0x2F6F, 0x2F6F, 1, 18564⟩, ⟨0x2F70, 0x2F70, 1, 18890⟩, ⟨0x2F71, 0x2F71, 1, 19015⟩,
   ⟨0x2F72, 0x2F72, 1, 19020⟩, ⟨0x2F73, 0x2F73, 1, 19201⟩, ⟨0x2F74, 0x2F74, 1, 19287⟩,
   ⟨0x2F75, 0x2F75, 1, 19332⟩, ⟨0x2F76, 0x2F76, 1, 19709⟩, ⟨0x2F77, 0x2F77, 1, 19841⟩,
   ⟨0x2F78, 0x2F78, 1, 20414⟩, ⟨0x2F79, 0x2F79, 1, 20440⟩, ⟨0x2F7A, 0x2F7A, 1, 20496⟩,
   ⟨0x2F7B, 0x2F7B, 1, 20546⟩, ⟨0x2F7C, 0x2F7C, 1, 20613⟩, ⟨0x2F7D, 0x2F7D, 1, 20623⟩,
   ⟨0x2F7E, 0x2F7E, 1, 20628⟩, ⟨0x2F7F, 0x2F7F, 1, 20660⟩, ⟨0x2F80, 0x2F80, 1, 20735⟩,
   ⟨0x2F81, 0x2F81, 1, 20744⟩, ⟨0x2F82, 0x2F82, 1, 21089⟩, ⟨0x2F83, 0x2F83, 1, 21095⟩,
   ⟨0x2F84, 0x2F84, 1, 21103⟩, ⟨0x2F85, 0x2F85, 1, 21111⟩, ⟨0x2F86, 0x2F86, 1, 21126⟩,
   ⟨0x2F87, 0x2F87, 1, 21140⟩, ⟨0x2F88, 0x2F88, 1, 21143⟩, ⟨0x2F89, 0x2F89, 1, 21221⟩,
   ⟨0x2F8A, 0x2F8A, 1, 21224⟩, ⟨0x2F8B, 0x2F8B, 1, 21229⟩, ⟨0x2F8C, 0x2F8C, 1, 22209⟩,
   ⟨0x2F8D, 0x2F8D, 1, 22238⟩, ⟨0x2F8E, 0x2F8E, 1, 22706⟩, ⟨0x2F8F, 0x2F8F, 1, 22717⟩,
   ⟨0x2F90, 0x2F90, 1, 22739⟩, ⟨0x2F91, 0x2F91, 1, 23021⟩, ⟨0x2F92, 0x2F92, 1, 23033⟩,
   ⟨0x2F93, 0x2F93, 1, 23103⟩, ⟨0x2F94, 0x2F94, 1, 23148⟩, ⟨0x2F95, 0x2F95, 1, 23714⟩,
   ⟨0x2F96, 0x2F96, 1, 23728⟩, ⟨0x2F97, 0x2F97, 1, 23742⟩, ⟨0x2F98, 0x2F98, 1, 23776⟩,
   ⟨0x2F99, 0x2F99, 1, 23812⟩, ⟨0x2F9A, 0x2F9A, 1, 24010⟩, ⟨0x2F9B, 0x2F9B, 1, 24021⟩,
   ⟨0x2F9C, 0x2F9C, 1, 24087⟩, ⟨0x2F9D, 0x2F9D, 1, 24334⟩, ⟨0x2F9E, 0x2F9E, 1, 24364⟩,
   ⟨0x2F9F, 0x2F9F, 1, 24572⟩, ⟨0x2FA0, 0x2FA0, 1, 24592⟩, ⟨0x2FA1, 0x2FA1, 1, 24596⟩,
   ⟨0x2FA2, 0x2FA2, 1, 24815⟩, ⟨0x2FA3, 0x2FA3, 1, 24998⟩, ⟨0x2FA4, 0x2FA4, 1, 25122⟩,
   ⟨0x2FA5, 0x2FA5, 1, 25127⟩, ⟨0x2FA6, 0x2FA6, 1, 25131⟩, ⟨0x2FA7, 0x2FA7, 1, 26064⟩,
   ⟨0x2FA8, 0x2FA8, 1, 26072⟩, ⟨0x2FA9, 0x2FA9, 1, 26227⟩, ⟨0x2FAA, 0x2FAA, 1, 26380⟩,
   ⟨0x2FAB, 0x2FAB, 1, 26382⟩, ⟨0x2FAC, 0x2FAC, 1, 26428⟩, ⟨0x2FAD, 0x2FAD, 1, 26532⟩,
   ⟨0x2FAE, 0x2FAE, 1, 26544⟩, ⟨0x2FAF, 0x2FAF, 1, 26547⟩, ⟨0x2FB0, 0x2FB0, 1, 26553⟩,
   ⟨0x2FB1, 0x2FB1, 1, 26650⟩, ⟨0x2FB2, 0x2FB2, 1, 26683⟩, ⟨0x2FB3, 0x2FB3, 1, 26688⟩,
   ⟨0x2FB4, 0x2FB4, 1, 26701⟩, ⟨0x2FB5, 0x2FB5, 1, 26867⟩, ⟨0x2FB6, 0x2FB6, 1, 26917⟩,
   ⟨0x2FB7, 0x2FB7, 1, 26920⟩, ⟨0x2FB8, 0x2FB8, 1, 27102⟩, ⟨0x2FB9, 0x2FB9, 1, 27104⟩,
   ⟨0x2FBA, 0x2FBA, 1, 27122⟩, ⟨0x2FBB, 0x2FBB, 1, 27373⟩, ⟨0x2FBC, 0x2FBC, 1, 27420⟩,
   ⟨0x2FBD, 0x2FBD, 1, 27426⟩, ⟨0x2FBE, 0x2FBE, 1, 27495⟩, ⟨0x2FBF, 0x2FBF, 1, 27504⟩,
   ⟨0x2FC0, 0x2FC0, 1, 27506⟩, ⟨0x2FC1, 0x2FC1, 1, 27515⟩, ⟨0x2FC2, 0x2FC2, 1, 27544⟩,
   ⟨0x2FC3, 0x2FC3, 1, 27938⟩, ⟨0x2FC4, 0x2FC4, 1, 28337⟩, ⟨0x2FC5, 0x2FC5, 1, 28346⟩,
   ⟨0x2FC6, 0x2FC6, 1, 28383⟩, ⟨0x2FC7, 0x2FC7, 1, 28404⟩, ⟨0x2FC8, 0x2FC8, 1, 28411⟩,
   ⟨0x2FC9, 0x2FC9, 1, 28420⟩, ⟨0x2FCA, 0x2FCA, 1, 28423⟩, ⟨0x2FCB, 0x2FCB, 1, 28462⟩,
   ⟨0x2FCC, 0x2FCC, 1, 28465⟩, ⟨0x2FCD, 0x2FCD, 1, 28481⟩, ⟨0x2FCE, 0x2FCE, 1, 28485⟩,
   ⟨0x2FCF, 0x2FCF, 1, 28497⟩, ⟨0x2FD0, 0x2FD0, 1, 28523⟩, ⟨0x2FD1, 0x2FD1, 1, 28537⟩,
   ⟨0x2FD2, 0x2FD2, 1, 28544⟩, ⟨0x2FD3, 0x2FD3, 1, 28602⟩, ⟨0x2FD4, 0x2FD4, 1, 28616⟩,
   ⟨0x2FD5, 0x2FD5, 1, 28619⟩]

/-- Compatibility forms from there on. -/
def laterShifts : List Text.CodeShift :=
  [⟨0x3000, 0x3000, 1, -12256⟩, ⟨0x3002, 0x3002, 1, -12244⟩, ⟨0x3036, 0x3036, 1, -36⟩,
   ⟨0x3038, 0x3038, 1, 8969⟩, ⟨0x3039, 0x303A, 1, 8971⟩, ⟨0x3131, 0x3132, 1, -8241⟩,
   ⟨0x3133, 0x3133, 1, -8073⟩, ⟨0x3134, 0x3134, 1, -8242⟩, ⟨0x3135, 0x3136, 1, -8073⟩,
   ⟨0x3137, 0x3139, 1, -8244⟩, ⟨0x313A, 0x313F, 1, -8074⟩, ⟨0x3140, 0x3140, 1, -8230⟩,
   ⟨0x3141, 0x3143, 1, -8251⟩, ⟨0x3144, 0x3144, 1, -8227⟩, ⟨0x3145, 0x314E, 1, -8252⟩,
   ⟨0x314F, 0x3163, 1, -8174⟩, ⟨0x3165, 0x3166, 1, -8273⟩, ⟨0x3167, 0x3168, 1, -8096⟩,
   ⟨0x3169, 0x3169, 1, -8093⟩, ⟨0x316A, 0x316A, 1, -8092⟩, ⟨0x316B, 0x316B, 1, -8088⟩,
   ⟨0x316C, 0x316C, 1, -8085⟩, ⟨0x316D, 0x316D, 1, -8084⟩, ⟨0x316E, 0x316E, 1, -8274⟩,
   ⟨0x316F, 0x316F, 1, -8082⟩, ⟨0x3170, 0x3170, 1, -8081⟩, ⟨0x3171, 0x3172, 1, -8276⟩,
   ⟨0x3173, 0x3173, 1, -8275⟩, ⟨0x3174, 0x3175, 1, -8274⟩, ⟨0x3176, 0x3176, 1, -8271⟩,
   ⟨0x3177, 0x3177, 1, -8270⟩, ⟨0x3178, 0x317C, 1, -8269⟩, ⟨0x317D, 0x317D, 1, -8267⟩,
   ⟨0x317E, 0x317E, 1, -8264⟩, ⟨0x317F, 0x317F, 1, -8255⟩, ⟨0x3180, 0x3180, 1, -8249⟩,
   ⟨0x3181, 0x3181, 1, -8245⟩, ⟨0x3182, 0x3183, 1, -8081⟩, ⟨0x3184, 0x3186, 1, -8237⟩,
   ⟨0x3187, 0x3188, 1, -8195⟩, ⟨0x3189, 0x3189, 1, -8193⟩, ⟨0x318A, 0x318B, 1, -8185⟩,
   ⟨0x318C, 0x318C, 1, -8184⟩, ⟨0x318D, 0x318D, 1, -8175⟩, ⟨0x318E, 0x318E, 1, -8173⟩,
   ⟨0x3192, 0x3192, 1, 7278⟩, ⟨0x3193, 0x3193, 1, 7417⟩, ⟨0x3194, 0x3194, 1, 7285⟩,
   ⟨0x3195, 0x3195, 1, 9542⟩, ⟨0x3196, 0x3196, 1, 7284⟩, ⟨0x3197, 0x3197, 1, 7318⟩,
   ⟨0x3198, 0x3198, 1, 7283⟩, ⟨0x3199, 0x3199, 1, 17305⟩, ⟨0x319A, 0x319A, 1, 7359⟩,
   ⟨0x319B, 0x319B, 1, 7294⟩, ⟨0x319C, 0x319C, 1, 7269⟩, ⟨0x319D, 0x319D, 1, 10124⟩,
   ⟨0x319E, 0x319E, 1, 9618⟩, ⟨0x319F, 0x319F, 1, 7451⟩, ⟨0x3244, 0x3244, 1, 8971⟩,
   ⟨0x3245, 0x3245, 1, 11319⟩, ⟨0x3246, 0x3246, 1, 13121⟩, ⟨0x3247, 0x3247, 1, 18760⟩,
   ⟨0x3260, 0x3260, 1, -8544⟩, ⟨0x3261, 0x3262, 1, -8543⟩, ⟨0x3263, 0x3265, 1, -8542⟩,
   ⟨0x3266, 0x3266, 1, -8541⟩, ⟨0x3267, 0x3268, 1, -8540⟩, ⟨0x3269, 0x326D, 1, -8539⟩,
   ⟨0x326E, 0x326E, 1, 31122⟩, ⟨0x326F, 0x326F, 1, 32297⟩, ⟨0x3270, 0x3270, 1, 32884⟩,
   ⟨0x3271, 0x3271, 1, 34059⟩, ⟨0x3272, 0x3272, 1, 34646⟩, ⟨0x3273, 0x3273, 1, 35233⟩,
   ⟨0x3274, 0x3274, 1, 36408⟩, ⟨0x3275, 0x3275, 1, 37583⟩, ⟨0x3276, 0x3276, 1, 38170⟩,
   ⟨0x3277, 0x3277, 1, 39345⟩, ⟨0x3278, 0x3278, 1, 39932⟩, ⟨0x3279, 0x3279, 1, 40519⟩,
   ⟨0x327A, 0x327A, 1, 41106⟩, ⟨0x327B, 0x327B, 1, 41693⟩, ⟨0x327E, 0x327E, 1, 37938⟩,
   ⟨0x3280, 0x3280, 1, 7040⟩, ⟨0x3281, 0x3281, 1, 7179⟩, ⟨0x3282, 0x3282, 1, 7047⟩,
   ⟨0x3283, 0x3283, 1, 9304⟩, ⟨0x3284, 0x3284, 1, 7184⟩, ⟨0x3285, 0x3285, 1, 7912⟩,
   ⟨0x3286, 0x3286, 1, 7037⟩, ⟨0x3287, 0x3287, 1, 7908⟩, ⟨0x3288, 0x3288, 1, 7125⟩,
   ⟨0x3289, 0x3289, 1, 8376⟩, ⟨0x328A, 0x328A, 1, 13438⟩, ⟨0x328B, 0x328B, 1, 15840⟩,
   ⟨0x328C, 0x328C, 1, 14760⟩, ⟨0x328D, 0x328D, 1, 13467⟩, ⟨0x328E, 0x328E, 1, 24387⟩,
   ⟨0x328F, 0x328F, 1, 9360⟩, ⟨0x3290, 0x3290, 1, 13141⟩, ⟨0x3291, 0x3291, 1, 13721⟩,
   ⟨0x3292, 0x3292, 1, 13431⟩, ⟨0x3293, 0x3293, 1, 18091⟩, ⟨0x3294, 0x3294, 1, 8569⟩,
   ⟨0x3295, 0x3295, 1, 16356⟩, ⟨0x3296, 0x3296, 1, 23051⟩, ⟨0x3297, 0x3297, 1, 18118⟩,
   ⟨0x3298, 0x3298, 1, 8220⟩, ⟨0x3299, 0x3299, 1, 18239⟩, ⟨0x329A, 0x329A, 1, 17053⟩,
   ⟨0x329B, 0x329B, 1, 9944⟩, ⟨0x329C, 0x329C, 1, 24013⟩, ⟨0x329D, 0x329D, 1, 7821⟩,
   ⟨0x329E, 0x329E, 1, 8402⟩, ⟨0x329F, 0x329F, 1, 14921⟩, ⟨0x32A0, 0x32A0, 1, 25957⟩,
   ⟨0x32A1, 0x32A1, 1, 7280⟩, ⟨0x32A2, 0x32A2, 1, 7927⟩, ⟨0x32A3, 0x32A3, 1, 14528⟩,
   ⟨0x32A4, 0x32A4, 1, 7014⟩, ⟨0x32A5, 0x32A5, 1, 7048⟩, ⟨0x32A6, 0x32A6, 1, 7013⟩,
   ⟨0x32A7, 0x32A7, 1, 11071⟩, ⟨0x32A8, 0x32A8, 1, 8523⟩, ⟨0x32A9, 0x32A9, 1, 8338⟩,
   ⟨0x32AA, 0x32AA, 1, 10477⟩, ⟨0x32AB, 0x32AB, 1, 10427⟩, ⟨0x32AC, 0x32AC, 1, 17463⟩,
   ⟨0x32AD, 0x32AD, 1, 7252⟩, ⟨0x32AE, 0x32AE, 1, 23065⟩, ⟨0x32AF, 0x32AF, 1, 8357⟩,
   ⟨0x32B0, 0x32B0, 1, 9836⟩, ⟨0x32D0, 0x32D0, 1, -558⟩, ⟨0x32D1, 0x32D1, 1, -557⟩,
   ⟨0x32D2, 0x32D2, 1, -556⟩, ⟨0x32D3, 0x32D3, 1, -555⟩, ⟨0x32D4, 0x32D5, 1, -554⟩,
   ⟨0x32D6, 0x32D6, 1, -553⟩, ⟨0x32D7, 0x32D7, 1, -552⟩, ⟨0x32D8, 0x32D8, 1, -551⟩,
   ⟨0x32D9, 0x32D9, 1, -550⟩, ⟨0x32DA, 0x32DA, 1, -549⟩, ⟨0x32DB, 0x32DB, 1, -548⟩,
   ⟨0x32DC, 0x32DC, 1, -547⟩, ⟨0x32DD, 0x32DD, 1, -546⟩, ⟨0x32DE, 0x32DE, 1, -545⟩,
   ⟨0x32DF, 0x32DF, 1, -544⟩, ⟨0x32E0, 0x32E0, 1, -543⟩, ⟨0x32E1, 0x32E1, 1, -541⟩,
   ⟨0x32E2, 0x32E2, 1, -540⟩, ⟨0x32E3, 0x32E3, 1, -539⟩, ⟨0x32E4, 0x32E9, 1, -538⟩,
   ⟨0x32EA, 0x32EA, 1, -536⟩, ⟨0x32EB, 0x32EB, 1, -534⟩, ⟨0x32EC, 0x32EC, 1, -532⟩,
   ⟨0x32ED, 0x32ED, 1, -530⟩, ⟨0x32EE, 0x32F2, 1, -528⟩, ⟨0x32F3, 0x32F3, 1, -527⟩,
   ⟨0x32F4, 0x32F4, 1, -526⟩, ⟨0x32F5, 0x32FA, 1, -525⟩, ⟨0x32FB, 0x32FE, 1, -524⟩,
   ⟨0xA69C, 0xA69C, 1, -41554⟩, ⟨0xA69D, 0xA69D, 1, -41553⟩, ⟨0xA770, 0xA770, 1, -1⟩,
   ⟨0xA7F1, 0xA7F1, 1, -42878⟩, ⟨0xA7F2, 0xA7F2, 1, -42895⟩, ⟨0xA7F3, 0xA7F3, 1, -42893⟩,
   ⟨0xA7F4, 0xA7F4, 1, -42883⟩, ⟨0xA7F8, 0xA7F8, 1, -42705⟩, ⟨0xA7F9, 0xA7F9, 1, -42662⟩,
   ⟨0xAB5C, 0xAB5C, 1, -1077⟩, ⟨0xAB5D, 0xAB5D, 1, -38⟩, ⟨0xAB5E, 0xAB5E, 1, -43251⟩,
   ⟨0xAB5F, 0xAB5F, 1, -13⟩, ⟨0xAB69, 0xAB69, 1, -43228⟩, ⟨0xAB70, 0xABBF, 1, -38864⟩,
   ⟨0xFB20, 0xFB20, 1, -62782⟩, ⟨0xFB21, 0xFB21, 1, -62801⟩, ⟨0xFB22, 0xFB23, 1, -62799⟩,
   ⟨0xFB24, 0xFB26, 1, -62793⟩, ⟨0xFB27, 0xFB27, 1, -62783⟩, ⟨0xFB28, 0xFB28, 1, -62782⟩,
   ⟨0xFB29, 0xFB29, 1, -64254⟩, ⟨0xFB50, 0xFB50, 1, -62687⟩, ⟨0xFB51, 0xFB51, 1, -62688⟩,
   ⟨0xFB52, 0xFB52, 1, -62679⟩, ⟨0xFB53, 0xFB53, 1, -62680⟩, ⟨0xFB54, 0xFB54, 1, -62681⟩,
   ⟨0xFB55, 0xFB55, 1, -62682⟩, ⟨0xFB56, 0xFB56, 1, -62680⟩, ⟨0xFB57, 0xFB57, 1, -62681⟩,
   ⟨0xFB58, 0xFB58, 1, -62682⟩, ⟨0xFB59, 0xFB59, 1, -62683⟩, ⟨0xFB5A, 0xFB5A, 1, -62682⟩,
   ⟨0xFB5B, 0xFB5B, 1, -62683⟩, ⟨0xFB5C, 0xFB5C, 1, -62684⟩, ⟨0xFB5D, 0xFB5D, 1, -62685⟩,
   ⟨0xFB5E, 0xFB5E, 1, -62692⟩, ⟨0xFB5F, 0xFB5F, 1, -62693⟩, ⟨0xFB60, 0xFB60, 1, -62694⟩,
   ⟨0xFB61, 0xFB61, 1, -62695⟩, ⟨0xFB62, 0xFB62, 1, -62691⟩, ⟨0xFB63, 0xFB63, 1, -62692⟩,
   ⟨0xFB64, 0xFB64, 1, -62693⟩, ⟨0xFB65, 0xFB65, 1, -62694⟩, ⟨0xFB66, 0xFB66, 1, -62701⟩,
   ⟨0xFB67, 0xFB67, 1, -62702⟩, ⟨0xFB68, 0xFB68, 1, -62703⟩, ⟨0xFB69, 0xFB69, 1, -62704⟩,
   ⟨0xFB6A, 0xFB6A, 1, -62662⟩, ⟨0xFB6B, 0xFB6B, 1, -62663⟩, ⟨0xFB6C, 0xFB6C, 1, -62664⟩,
   ⟨0xFB6D, 0xFB6D, 1, -62665⟩, ⟨0xFB6E, 0xFB6E, 1, -62664⟩, ⟨0xFB6F, 0xFB6F, 1, -62665⟩,
   ⟨0xFB70, 0xFB70, 1, -62666⟩, ⟨0xFB71, 0xFB71, 1, -62667⟩, ⟨0xFB72, 0xFB72, 1, -62702⟩,
   ⟨0xFB73, 0xFB73, 1, -62703⟩, ⟨0xFB74, 0xFB74, 1, -62704⟩, ⟨0xFB75, 0xFB75, 1, -62705⟩,
   ⟨0xFB76, 0xFB76, 1, -62707⟩, ⟨0xFB77, 0xFB77, 1, -62708⟩, ⟨0xFB78, 0xFB78, 1, -62709⟩,
   ⟨0xFB79, 0xFB79, 1, -62710⟩, ⟨0xFB7A, 0xFB7A, 1, -62708⟩, ⟨0xFB7B, 0xFB7B, 1, -62709⟩,
   ⟨0xFB7C, 0xFB7C, 1, -62710⟩, ⟨0xFB7D, 0xFB7E, 1, -62711⟩, ⟨0xFB7F, 0xFB7F, 1, -62712⟩,
   ⟨0xFB80, 0xFB80, 1, -62713⟩, ⟨0xFB81, 0xFB81, 1, -62714⟩, ⟨0xFB82, 0xFB82, 1, -62709⟩,
   ⟨0xFB83, 0xFB83, 1, -62710⟩, ⟨0xFB84, 0xFB84, 1, -62712⟩, ⟨0xFB85, 0xFB85, 1, -62713⟩,
   ⟨0xFB86, 0xFB86, 1, -62712⟩, ⟨0xFB87, 0xFB87, 1, -62713⟩, ⟨0xFB88, 0xFB88, 1, -62720⟩,
   ⟨0xFB89, 0xFB89, 1, -62721⟩, ⟨0xFB8A, 0xFB8A, 1, -62706⟩, ⟨0xFB8B, 0xFB8B, 1, -62707⟩,
   ⟨0xFB8C, 0xFB8C, 1, -62715⟩, ⟨0xFB8D, 0xFB8D, 1, -62716⟩, ⟨0xFB8E, 0xFB8E, 1, -62693⟩,
   ⟨0xFB8F, 0xFB8F, 1, -62694⟩, ⟨0xFB90, 0xFB90, 1, -62695⟩, ⟨0xFB91, 0xFB91, 1, -62696⟩,
   ⟨0xFB92, 0xFB92, 1, -62691⟩, ⟨0xFB93, 0xFB93, 1, -62692⟩, ⟨0xFB94, 0xFB94, 1, -62693⟩,
   ⟨0xFB95, 0xFB95, 1, -62694⟩, ⟨0xFB96, 0xFB96, 1, -62691⟩, ⟨0xFB97, 0xFB97, 1, -62692⟩,
   ⟨0xFB98, 0xFB98, 1, -62693⟩, ⟨0xFB99, 0xFB99, 1, -62694⟩, ⟨0xFB9A, 0xFB9A, 1, -62697⟩,
   ⟨0xFB9B, 0xFB9B, 1, -62698⟩, ⟨0xFB9C, 0xFB9C, 1, -62699⟩, ⟨0xFB9D, 0xFB9D, 1, -62700⟩,
   ⟨0xFB9E, 0xFB9E, 1, -62692⟩, ⟨0xFB9F, 0xFBA0, 1, -62693⟩, ⟨0xFBA1, 0xFBA1, 1, -62694⟩,
   ⟨0xFBA2, 0xFBA2, 1, -62695⟩, ⟨0xFBA3, 0xFBA3, 1, -62696⟩, ⟨0xFBA4, 0xFBA4, 1, -62692⟩,
   ⟨0xFBA5, 0xFBA6, 1, -62693⟩, ⟨0xFBA7, 0xFBA7, 1, -62694⟩, ⟨0xFBA8, 0xFBA8, 1, -62695⟩,
   ⟨0xFBA9, 0xFBA9, 1, -62696⟩, ⟨0xFBAA, 0xFBAA, 1, -62700⟩, ⟨0xFBAB, 0xFBAB, 1, -62701⟩,
   ⟨0xFBAC, 0xFBAC, 1, -62702⟩, ⟨0xFBAD, 0xFBAD, 1, -62703⟩, ⟨0xFBAE, 0xFBAE, 1, -62684⟩,
   ⟨0xFBAF, 0xFBB0, 1, -62685⟩, ⟨0xFBB1, 0xFBB1, 1, -62686⟩, ⟨0xFBD3, 0xFBD3, 1, -62758⟩,
   ⟨0xFBD4, 0xFBD4, 1, -62759⟩, ⟨0xFBD5, 0xFBD5, 1, -62760⟩, ⟨0xFBD6, 0xFBD6, 1, -62761⟩,
   ⟨0xFBD7, 0xFBD7, 1, -62736⟩, ⟨0xFBD8, 0xFBD8, 1, -62737⟩, ⟨0xFBD9, 0xFBD9, 1, -62739⟩,
   ⟨0xFBDA, 0xFBDA, 1, -62740⟩, ⟨0xFBDB, 0xFBDB, 1, -62739⟩, ⟨0xFBDC, 0xFBDC, 1, -62740⟩,
   ⟨0xFBDE, 0xFBDE, 1, -62739⟩, ⟨0xFBDF, 0xFBDF, 1, -62740⟩, ⟨0xFBE0, 0xFBE0, 1, -62747⟩,
   ⟨0xFBE1, 0xFBE1, 1, -62748⟩, ⟨0xFBE2, 0xFBE2, 1, -62745⟩, ⟨0xFBE3, 0xFBE3, 1, -62746⟩,
   ⟨0xFBE4, 0xFBE4, 1, -62740⟩, ⟨0xFBE5, 0xFBE5, 1, -62741⟩, ⟨0xFBE6, 0xFBE6, 1, -62742⟩,
   ⟨0xFBE7, 0xFBE7, 1, -62743⟩, ⟨0xFBE8, 0xFBE8, 1, -62879⟩, ⟨0xFBE9, 0xFBE9, 1, -62880⟩,
   ⟨0xFBFC, 0xFBFC, 1, -62768⟩, ⟨0xFBFD, 0xFBFD, 1, -62769⟩, ⟨0xFBFE, 0xFBFE, 1, -62770⟩,
   ⟨0xFBFF, 0xFBFF, 1, -62771⟩, ⟨0xFE10, 0xFE10, 1, -64996⟩, ⟨0xFE11, 0xFE11, 1, -52752⟩,
   ⟨0xFE13, 0xFE14, 1, -64985⟩, ⟨0xFE15, 0xFE15, 1, -65012⟩, ⟨0xFE16, 0xFE16, 1, -64983⟩,
   ⟨0xFE17, 0xFE18, 1, -52737⟩, ⟨0xFE31, 0xFE31, 1, -56861⟩, ⟨0xFE32, 0xFE32, 1, -56863⟩,
   ⟨0xFE33, 0xFE33, 1, -64980⟩, ⟨0xFE34, 0xFE34, 1, -64981⟩, ⟨0xFE35, 0xFE36, 1, -65037⟩,
   ⟨0xFE37, 0xFE37, 1, -64956⟩, ⟨0xFE38, 0xFE38, 1, -64955⟩, ⟨0xFE39, 0xFE3A, 1, -52773⟩,
   ⟨0xFE3B, 0xFE3C, 1, -52779⟩, ⟨0xFE3D, 0xFE3E, 1, -52787⟩, ⟨0xFE3F, 0xFE40, 1, -52791⟩,
   ⟨0xFE41, 0xFE44, 1, -52789⟩, ⟨0xFE47, 0xFE47, 1, -65004⟩, ⟨0xFE48, 0xFE48, 1, -65003⟩,
   ⟨0xFE4D, 0xFE4D, 1, -65006⟩, ⟨0xFE4E, 0xFE4E, 1, -65007⟩, ⟨0xFE4F, 0xFE4F, 1, -65008⟩,
   ⟨0xFE50, 0xFE50, 1, -65060⟩, ⟨0xFE51, 0xFE51, 1, -52816⟩, ⟨0xFE54, 0xFE54, 1, -65049⟩,
   ⟨0xFE55, 0xFE55, 1, -65051⟩, ⟨0xFE56, 0xFE56, 1, -65047⟩, ⟨0xFE57, 0xFE57, 1, -65078⟩,
   ⟨0xFE58, 0xFE58, 1, -56900⟩, ⟨0xFE59, 0xFE5A, 1, -65073⟩, ⟨0xFE5B, 0xFE5B, 1, -64992⟩,
   ⟨0xFE5C, 0xFE5C, 1, -64991⟩, ⟨0xFE5D, 0xFE5E, 1, -52809⟩, ⟨0xFE5F, 0xFE5F, 1, -65084⟩,
   ⟨0xFE60, 0xFE60, 1, -65082⟩, ⟨0xFE61, 0xFE62, 1, -65079⟩, ⟨0xFE63, 0xFE63, 1, -65078⟩,
   ⟨0xFE64, 0xFE64, 1, -65064⟩, ⟨0xFE65, 0xFE65, 1, -65063⟩, ⟨0xFE66, 0xFE66, 1, -65065⟩,
   ⟨0xFE68, 0xFE68, 1, -65036⟩, ⟨0xFE69, 0xFE6A, 1, -65093⟩, ⟨0xFE6B, 0xFE6B, 1, -65067⟩,
   ⟨0xFE80, 0xFE81, 1, -63583⟩, ⟨0xFE82, 0xFE83, 1, -63584⟩, ⟨0xFE84, 0xFE85, 1, -63585⟩,
   ⟨0xFE86, 0xFE87, 1, -63586⟩, ⟨0xFE88, 0xFE89, 1, -63587⟩, ⟨0xFE8A, 0xFE8A, 1, -63588⟩,
   ⟨0xFE8B, 0xFE8B, 1, -63589⟩, ⟨0xFE8C, 0xFE8D, 1, -63590⟩, ⟨0xFE8E, 0xFE8F, 1, -63591⟩,
   ⟨0xFE90, 0xFE90, 1, -63592⟩, ⟨0xFE91, 0xFE91, 1, -63593⟩, ⟨0xFE92, 0xFE93, 1, -63594⟩,
   ⟨0xFE94, 0xFE95, 1, -63595⟩, ⟨0xFE96, 0xFE96, 1, -63596⟩, ⟨0xFE97, 0xFE97, 1, -63597⟩,
   ⟨0xFE98, 0xFE99, 1, -63598⟩, ⟨0xFE9A, 0xFE9A, 1, -63599⟩, ⟨0xFE9B, 0xFE9B, 1, -63600⟩,
   ⟨0xFE9C, 0xFE9D, 1, -63601⟩, ⟨0xFE9E, 0xFE9E, 1, -63602⟩, ⟨0xFE9F, 0xFE9F, 1, -63603⟩,
   ⟨0xFEA0, 0xFEA1, 1, -63604⟩, ⟨0xFEA2, 0xFEA2, 1, -63605⟩, ⟨0xFEA3, 0xFEA3, 1, -63606⟩,
   ⟨0xFEA4, 0xFEA5, 1, -63607⟩, ⟨0xFEA6, 0xFEA6, 1, -63608⟩, ⟨0xFEA7, 0xFEA7, 1, -63609⟩,
   ⟨0xFEA8, 0xFEA9, 1, -63610⟩, ⟨0xFEAA, 0xFEAB, 1, -63611⟩, ⟨0xFEAC, 0xFEAD, 1, -63612⟩,
   ⟨0xFEAE, 0xFEAF, 1, -63613⟩, ⟨0xFEB0, 0xFEB1, 1, -63614⟩, ⟨0xFEB2, 0xFEB2, 1, -63615⟩,
   ⟨0xFEB3, 0xFEB3, 1, -63616⟩, ⟨0xFEB4, 0xFEB5, 1, -63617⟩, ⟨0xFEB6, 0xFEB6, 1, -63618⟩,
   ⟨0xFEB7, 0xFEB7, 1, -63619⟩, ⟨0xFEB8, 0xFEB9, 1, -63620⟩, ⟨0xFEBA, 0xFEBA, 1, -63621⟩,
   ⟨0xFEBB, 0xFEBB, 1, -63622⟩, ⟨0xFEBC, 0xFEBD, 1, -63623⟩, ⟨0xFEBE, 0xFEBE, 1, -63624⟩,
   ⟨0xFEBF, 0xFEBF, 1, -63625⟩, ⟨0xFEC0, 0xFEC1, 1, -63626⟩, ⟨0xFEC2, 0xFEC2, 1, -63627⟩,
   ⟨0xFEC3, 0xFEC3, 1, -63628⟩, ⟨0xFEC4, 0xFEC5, 1, -63629⟩, ⟨0xFEC6, 0xFEC6, 1, -63630⟩,
   ⟨0xFEC7, 0xFEC7, 1, -63631⟩, ⟨0xFEC8, 0xFEC9, 1, -63632⟩, ⟨0xFECA, 0xFECA, 1, -63633⟩,
   ⟨0xFECB, 0xFECB, 1, -63634⟩, ⟨0xFECC, 0xFECD, 1, -63635⟩, ⟨0xFECE, 0xFECE, 1, -63636⟩,
   ⟨0xFECF, 0xFECF, 1, -63637⟩, ⟨0xFED0, 0xFED0, 1, -63638⟩, ⟨0xFED1, 0xFED1, 1, -63632⟩,
   ⟨0xFED2, 0xFED2, 1, -63633⟩, ⟨0xFED3, 0xFED3, 1, -63634⟩, ⟨0xFED4, 0xFED5, 1, -63635⟩,
   ⟨0xFED6, 0xFED6, 1, -63636⟩, ⟨0xFED7, 0xFED7, 1, -63637⟩, ⟨0xFED8, 0xFED9, 1, -63638⟩,
   ⟨0xFEDA, 0xFEDA, 1, -63639⟩, ⟨0xFEDB, 0xFEDB, 1, -63640⟩, ⟨0xFEDC, 0xFEDD, 1, -63641⟩,
   ⟨0xFEDE, 0xFEDE, 1, -63642⟩, ⟨0xFEDF, 0xFEDF, 1, -63643⟩, ⟨0xFEE0, 0xFEE1, 1, -63644⟩,
   ⟨0xFEE2, 0xFEE2, 1, -63645⟩, ⟨0xFEE3, 0xFEE3, 1, -63646⟩, ⟨0xFEE4, 0xFEE5, 1, -63647⟩,
   ⟨0xFEE6, 0xFEE6, 1, -63648⟩, ⟨0xFEE7, 0xFEE7, 1, -63649⟩, ⟨0xFEE8, 0xFEE9, 1, -63650⟩,
   ⟨0xFEEA, 0xFEEA, 1, -63651⟩, ⟨0xFEEB, 0xFEEB, 1, -63652⟩, ⟨0xFEEC, 0xFEED, 1, -63653⟩,
   ⟨0xFEEE, 0xFEEF, 1, -63654⟩, ⟨0xFEF0, 0xFEF1, 1, -63655⟩, ⟨0xFEF2, 0xFEF2, 1, -63656⟩,
   ⟨0xFEF3, 0xFEF3, 1, -63657⟩, ⟨0xFEF4, 0xFEF4, 1, -63658⟩, ⟨0xFF01, 0xFF20, 1, -65248⟩,
   ⟨0xFF21, 0xFF3A, 1, -65216⟩, ⟨0xFF3B, 0xFF5E, 1, -65248⟩, ⟨0xFF5F, 0xFF60, 1, -54746⟩,
   ⟨0xFF61, 0xFF61, 1, -65331⟩, ⟨0xFF62, 0xFF63, 1, -53078⟩, ⟨0xFF64, 0xFF64, 1, -53091⟩,
   ⟨0xFF65, 0xFF65, 1, -52842⟩, ⟨0xFF66, 0xFF66, 1, -52852⟩, ⟨0xFF67, 0xFF67, 1, -52934⟩,
   ⟨0xFF68, 0xFF68, 1, -52933⟩, ⟨0xFF69, 0xFF69, 1, -52932⟩, ⟨0xFF6A, 0xFF6A, 1, -52931⟩,
   ⟨0xFF6B, 0xFF6B, 1, -52930⟩, ⟨0xFF6C, 0xFF6C, 1, -52873⟩, ⟨0xFF6D, 0xFF6D, 1, -52872⟩,
   ⟨0xFF6E, 0xFF6E, 1, -52871⟩, ⟨0xFF6F, 0xFF6F, 1, -52908⟩, ⟨0xFF70, 0xFF70, 1, -52852⟩,
   ⟨0xFF71, 0xFF71, 1, -52943⟩, ⟨0xFF72, 0xFF72, 1, -52942⟩, ⟨0xFF73, 0xFF73, 1, -52941⟩,
   ⟨0xFF74, 0xFF74, 1, -52940⟩, ⟨0xFF75, 0xFF76, 1, -52939⟩, ⟨0xFF77, 0xFF77, 1, -52938⟩,
   ⟨0xFF78, 0xFF78, 1, -52937⟩, ⟨0xFF79, 0xFF79, 1, -52936⟩, ⟨0xFF7A, 0xFF7A, 1, -52935⟩,
   ⟨0xFF7B, 0xFF7B, 1, -52934⟩, ⟨0xFF7C, 0xFF7C, 1, -52933⟩, ⟨0xFF7D, 0xFF7D, 1, -52932⟩,
   ⟨0xFF7E, 0xFF7E, 1, -52931⟩, ⟨0xFF7F, 0xFF7F, 1, -52930⟩, ⟨0xFF80, 0xFF80, 1, -52929⟩,
   ⟨0xFF81, 0xFF81, 1, -52928⟩, ⟨0xFF82, 0xFF82, 1, -52926⟩, ⟨0xFF83, 0xFF83, 1, -52925⟩,
   ⟨0xFF84, 0xFF84, 1, -52924⟩, ⟨0xFF85, 0xFF8A, 1, -52923⟩, ⟨0xFF8B, 0xFF8B, 1, -52921⟩,
   ⟨0xFF8C, 0xFF8C, 1, -52919⟩, ⟨0xFF8D, 0xFF8D, 1, -52917⟩, ⟨0xFF8E, 0xFF8E, 1, -52915⟩,
   ⟨0xFF8F, 0xFF93, 1, -52913⟩, ⟨0xFF94, 0xFF94, 1, -52912⟩, ⟨0xFF95, 0xFF95, 1, -52911⟩,
   ⟨0xFF96, 0xFF9B, 1, -52910⟩, ⟨0xFF9C, 0xFF9C, 1, -52909⟩, ⟨0xFF9D, 0xFF9D, 1, -52906⟩,
   ⟨0xFF9E, 0xFF9F, 1, -52997⟩, ⟨0xFFA1, 0xFFA2, 1, -61089⟩, ⟨0xFFA3, 0xFFA3, 1, -60921⟩,
   ⟨0xFFA4, 0xFFA4, 1, -61090⟩, ⟨0xFFA5, 0xFFA6, 1, -60921⟩, ⟨0xFFA7, 0xFFA9, 1, -61092⟩,
   ⟨0xFFAA, 0xFFAF, 1, -60922⟩, ⟨0xFFB0, 0xFFB0, 1, -61078⟩, ⟨0xFFB1, 0xFFB3, 1, -61099⟩,
   ⟨0xFFB4, 0xFFB4, 1, -61075⟩, ⟨0xFFB5, 0xFFBE, 1, -61100⟩, ⟨0xFFC2, 0xFFC7, 1, -61025⟩,
   ⟨0xFFCA, 0xFFCF, 1, -61027⟩, ⟨0xFFD2, 0xFFD7, 1, -61029⟩, ⟨0xFFDA, 0xFFDC, 1, -61031⟩,
   ⟨0xFFE0, 0xFFE1, 1, -65342⟩, ⟨0xFFE2, 0xFFE2, 1, -65334⟩, ⟨0xFFE4, 0xFFE4, 1, -65342⟩,
   ⟨0xFFE5, 0xFFE5, 1, -65344⟩, ⟨0xFFE6, 0xFFE6, 1, -57149⟩, ⟨0xFFE8, 0xFFE8, 1, -56038⟩,
   ⟨0xFFE9, 0xFFEC, 1, -56921⟩, ⟨0xFFED, 0xFFED, 1, -55885⟩, ⟨0xFFEE, 0xFFEE, 1, -55843⟩,
   ⟨0x10781, 0x10782, 1, -66737⟩, ⟨0x10783, 0x10783, 1, -67229⟩, ⟨0x10784, 0x10784, 1, -66795⟩,
   ⟨0x10785, 0x10785, 1, -66866⟩, ⟨0x10787, 0x10787, 1, -66788⟩, ⟨0x10788, 0x10788, 1, -23586⟩,
   ⟨0x10789, 0x10789, 1, -66788⟩, ⟨0x1078A, 0x1078A, 1, -66790⟩, ⟨0x1078B, 0x1078C, 1, -66869⟩,
   ⟨0x1078D, 0x1078D, 1, -59900⟩, ⟨0x1078E, 0x1078E, 1, -66870⟩, ⟨0x1078F, 0x1078F, 1, -66865⟩,
   ⟨0x10790, 0x10790, 1, -66791⟩, ⟨0x10791, 0x10791, 1, -66861⟩, ⟨0x10792, 0x10792, 1, -66864⟩,
   ⟨0x10793, 0x10793, 1, -66867⟩, ⟨0x10794, 0x10794, 1, -66809⟩, ⟨0x10795, 0x10795, 1, -67182⟩,
   ⟨0x10796, 0x10796, 1, -66810⟩, ⟨0x10797, 0x10797, 1, -66864⟩, ⟨0x10798, 0x10798, 1, -66836⟩,
   ⟨0x10799, 0x1079A, 1, -66799⟩, ⟨0x1079B, 0x1079B, 1, -66863⟩, ⟨0x1079C, 0x1079C, 1, 55144⟩,
   ⟨0x1079D, 0x1079D, 1, -24591⟩, ⟨0x1079E, 0x1079E, 1, -66864⟩, ⟨0x1079F, 0x1079F, 1, 55142⟩,
   ⟨0x107A0, 0x107A0, 1, -66834⟩, ⟨0x107A1, 0x107A1, 1, 55141⟩, ⟨0x107A2, 0x107A2, 1, -67242⟩,
   ⟨0x107A3, 0x107A4, 1, -66861⟩, ⟨0x107A5, 0x107A5, 1, -67380⟩, ⟨0x107A6, 0x107A6, 1, -66860⟩,
   ⟨0x107A7, 0x107A7, 1, 55137⟩, ⟨0x107A8, 0x107A9, 1, -66859⟩, ⟨0x107AA, 0x107AA, 1, -66858⟩,
   ⟨0x107AB, 0x107AB, 1, -66819⟩, ⟨0x107AC, 0x107AC, 1, -66822⟩, ⟨0x107AD, 0x107AD, 1, -23622⟩,
   ⟨0x107AE, 0x107AE, 1, -66823⟩, ⟨0x107AF, 0x107AF, 1, -66855⟩, ⟨0x107B0, 0x107B0, 1, -56127⟩,
   ⟨0x107B2, 0x107B2, 1, -66851⟩, ⟨0x107B3, 0x107B4, 1, -66834⟩, ⟨0x107B5, 0x107B5, 1, -66845⟩,
   ⟨0x107B6, 0x107B8, 1, -67062⟩, ⟨0x107B9, 0x107B9, 1, 55121⟩, ⟨0x107BA, 0x107BA, 1, 55140⟩,
   ⟨0x1CCD6, 0x1CCEF, 1, -117877⟩, ⟨0x1CCF0, 0x1CCF9, 1, -117952⟩, ⟨0x1D400, 0x1D419, 1, -119711⟩,
   ⟨0x1D41A, 0x1D433, 1, -119737⟩, ⟨0x1D434, 0x1D44D, 1, -119763⟩, ⟨0x1D44E, 0x1D454, 1, -119789⟩,
   ⟨0x1D456, 0x1D467, 1, -119789⟩, ⟨0x1D468, 0x1D481, 1, -119815⟩, ⟨0x1D482, 0x1D49B, 1, -119841⟩,
   ⟨0x1D49C, 0x1D49E, 2, -119867⟩, ⟨0x1D49F, 0x1D49F, 1, -119867⟩, ⟨0x1D4A2, 0x1D4A2, 1, -119867⟩,
   ⟨0x1D4A5, 0x1D4A6, 1, -119867⟩, ⟨0x1D4A9, 0x1D4AC, 1, -119867⟩, ⟨0x1D4AE, 0x1D4B5, 1, -119867⟩,
   ⟨0x1D4B6, 0x1D4B9, 1, -119893⟩, ⟨0x1D4BB, 0x1D4BD, 2, -119893⟩, ⟨0x1D4BE, 0x1D4C3, 1, -119893⟩,
   ⟨0x1D4C5, 0x1D4CF, 1, -119893⟩, ⟨0x1D4D0, 0x1D4E9, 1, -119919⟩, ⟨0x1D4EA, 0x1D503, 1, -119945⟩,
   ⟨0x1D504, 0x1D505, 1, -119971⟩, ⟨0x1D507, 0x1D50A, 1, -119971⟩, ⟨0x1D50D, 0x1D514, 1, -119971⟩,
   ⟨0x1D516, 0x1D51C, 1, -119971⟩, ⟨0x1D51E, 0x1D537, 1, -119997⟩, ⟨0x1D538, 0x1D539, 1, -120023⟩,
   ⟨0x1D53B, 0x1D53E, 1, -120023⟩, ⟨0x1D540, 0x1D544, 1, -120023⟩, ⟨0x1D546, 0x1D546, 1, -120023⟩,
   ⟨0x1D54A, 0x1D550, 1, -120023⟩, ⟨0x1D552, 0x1D56B, 1, -120049⟩, ⟨0x1D56C, 0x1D585, 1, -120075⟩,
   ⟨0x1D586, 0x1D59F, 1, -120101⟩, ⟨0x1D5A0, 0x1D5B9, 1, -120127⟩, ⟨0x1D5BA, 0x1D5D3, 1, -120153⟩,
   ⟨0x1D5D4, 0x1D5ED, 1, -120179⟩, ⟨0x1D5EE, 0x1D607, 1, -120205⟩, ⟨0x1D608, 0x1D621, 1, -120231⟩,
   ⟨0x1D622, 0x1D63B, 1, -120257⟩, ⟨0x1D63C, 0x1D655, 1, -120283⟩, ⟨0x1D656, 0x1D66F, 1, -120309⟩,
   ⟨0x1D670, 0x1D689, 1, -120335⟩, ⟨0x1D68A, 0x1D6A3, 1, -120361⟩, ⟨0x1D6A4, 0x1D6A4, 1, -120179⟩,
   ⟨0x1D6A5, 0x1D6A5, 1, -119918⟩, ⟨0x1D6A8, 0x1D6B8, 1, -119543⟩, ⟨0x1D6B9, 0x1D6B9, 1, -119553⟩,
   ⟨0x1D6BA, 0x1D6C0, 1, -119543⟩, ⟨0x1D6C1, 0x1D6C1, 1, -111802⟩, ⟨0x1D6C2, 0x1D6D2, 1, -119569⟩,
   ⟨0x1D6D3, 0x1D6D3, 1, -119568⟩, ⟨0x1D6D4, 0x1D6DA, 1, -119569⟩, ⟨0x1D6DB, 0x1D6DB, 1, -111833⟩,
   ⟨0x1D6DC, 0x1D6DC, 1, -119591⟩, ⟨0x1D6DD, 0x1D6DD, 1, -119589⟩, ⟨0x1D6DE, 0x1D6DE, 1, -119588⟩,
   ⟨0x1D6DF, 0x1D6DF, 1, -119577⟩, ⟨0x1D6E0, 0x1D6E0, 1, -119583⟩, ⟨0x1D6E1, 0x1D6E1, 1, -119585⟩,
   ⟨0x1D6E2, 0x1D6F2, 1, -119601⟩, ⟨0x1D6F3, 0x1D6F3, 1, -119611⟩, ⟨0x1D6F4, 0x1D6FA, 1, -119601⟩,
   ⟨0x1D6FB, 0x1D6FB, 1, -111860⟩, ⟨0x1D6FC, 0x1D70C, 1, -119627⟩, ⟨0x1D70D, 0x1D70D, 1, -119626⟩,
   ⟨0x1D70E, 0x1D714, 1, -119627⟩, ⟨0x1D715, 0x1D715, 1, -111891⟩, ⟨0x1D716, 0x1D716, 1, -119649⟩,
   ⟨0x1D717, 0x1D717, 1, -119647⟩, ⟨0x1D718, 0x1D718, 1, -119646⟩, ⟨0x1D719, 0x1D719, 1, -119635⟩,
   ⟨0x1D71A, 0x1D71A, 1, -119641⟩, ⟨0x1D71B, 0x1D71B, 1, -119643⟩, ⟨0x1D71C, 0x1D72C, 1, -119659⟩,
   ⟨0x1D72D, 0x1D72D, 1, -119669⟩, ⟨0x1D72E, 0x1D734, 1, -119659⟩, ⟨0x1D735, 0x1D735, 1, -111918⟩,
   ⟨0x1D736, 0x1D746, 1, -119685⟩, ⟨0x1D747, 0x1D747, 1, -119684⟩, ⟨0x1D748, 0x1D74E, 1, -119685⟩,
   ⟨0x1D74F, 0x1D74F, 1, -111949⟩, ⟨0x1D750, 0x1D750, 1, -119707⟩, ⟨0x1D751, 0x1D751, 1, -119705⟩,
   ⟨0x1D752, 0x1D752, 1, -119704⟩, ⟨0x1D753, 0x1D753, 1, -119693⟩, ⟨0x1D754, 0x1D754, 1, -119699⟩,
   ⟨0x1D755, 0x1D755, 1, -119701⟩, ⟨0x1D756, 0x1D766, 1, -119717⟩, ⟨0x1D767, 0x1D767, 1, -119727⟩,
   ⟨0x1D768, 0x1D76E, 1, -119717⟩, ⟨0x1D76F, 0x1D76F, 1, -111976⟩, ⟨0x1D770, 0x1D780, 1, -119743⟩,
   ⟨0x1D781, 0x1D781, 1, -119742⟩, ⟨0x1D782, 0x1D788, 1, -119743⟩, ⟨0x1D789, 0x1D789, 1, -112007⟩,
   ⟨0x1D78A, 0x1D78A, 1, -119765⟩, ⟨0x1D78B, 0x1D78B, 1, -119763⟩, ⟨0x1D78C, 0x1D78C, 1, -119762⟩,
   ⟨0x1D78D, 0x1D78D, 1, -119751⟩, ⟨0x1D78E, 0x1D78E, 1, -119757⟩, ⟨0x1D78F, 0x1D78F, 1, -119759⟩,
   ⟨0x1D790, 0x1D7A0, 1, -119775⟩, ⟨0x1D7A1, 0x1D7A1, 1, -119785⟩, ⟨0x1D7A2, 0x1D7A8, 1, -119775⟩,
   ⟨0x1D7A9, 0x1D7A9, 1, -112034⟩, ⟨0x1D7AA, 0x1D7BA, 1, -119801⟩, ⟨0x1D7BB, 0x1D7BB, 1, -119800⟩,
   ⟨0x1D7BC, 0x1D7C2, 1, -119801⟩, ⟨0x1D7C3, 0x1D7C3, 1, -112065⟩, ⟨0x1D7C4, 0x1D7C4, 1, -119823⟩,
   ⟨0x1D7C5, 0x1D7C5, 1, -119821⟩, ⟨0x1D7C6, 0x1D7C6, 1, -119820⟩, ⟨0x1D7C7, 0x1D7C7, 1, -119809⟩,
   ⟨0x1D7C8, 0x1D7C8, 1, -119815⟩, ⟨0x1D7C9, 0x1D7C9, 1, -119817⟩, ⟨0x1D7CA, 0x1D7CA, 1, -119789⟩,
   ⟨0x1D7CB, 0x1D7CB, 1, -119790⟩, ⟨0x1D7CE, 0x1D7D7, 1, -120734⟩, ⟨0x1D7D8, 0x1D7E1, 1, -120744⟩,
   ⟨0x1D7E2, 0x1D7EB, 1, -120754⟩, ⟨0x1D7EC, 0x1D7F5, 1, -120764⟩, ⟨0x1D7F6, 0x1D7FF, 1, -120774⟩,
   ⟨0x1E030, 0x1E038, 1, -121856⟩, ⟨0x1E039, 0x1E03B, 1, -121855⟩, ⟨0x1E03C, 0x1E046, 1, -121854⟩,
   ⟨0x1E047, 0x1E047, 1, -121852⟩, ⟨0x1E048, 0x1E049, 1, -121851⟩, ⟨0x1E04A, 0x1E04A, 1, -80321⟩,
   ⟨0x1E04B, 0x1E04B, 1, -121714⟩, ⟨0x1E04C, 0x1E04C, 1, -121846⟩, ⟨0x1E04D, 0x1E04D, 1, -121845⟩,
   ⟨0x1E04E, 0x1E04E, 1, -121701⟩, ⟨0x1E04F, 0x1E04F, 1, -121760⟩, ⟨0x1E050, 0x1E050, 1, -121729⟩,
   ⟨0x1E051, 0x1E059, 1, -121889⟩, ⟨0x1E05A, 0x1E05B, 1, -121888⟩, ⟨0x1E05C, 0x1E05D, 1, -121886⟩,
   ⟨0x1E05E, 0x1E05E, 1, -121885⟩, ⟨0x1E05F, 0x1E064, 1, -121884⟩, ⟨0x1E065, 0x1E066, 1, -121883⟩,
   ⟨0x1E067, 0x1E067, 1, -121814⟩, ⟨0x1E068, 0x1E068, 1, -121874⟩, ⟨0x1E069, 0x1E069, 1, -121876⟩,
   ⟨0x1E06A, 0x1E06A, 1, -121867⟩, ⟨0x1E06B, 0x1E06B, 1, -121792⟩, ⟨0x1E06C, 0x1E06C, 1, -80411⟩,
   ⟨0x1E06D, 0x1E06D, 1, -121788⟩, ⟨0x1EE00, 0x1EE01, 1, -124889⟩, ⟨0x1EE02, 0x1EE02, 1, -124886⟩,
   ⟨0x1EE03, 0x1EE03, 1, -124884⟩, ⟨0x1EE05, 0x1EE05, 1, -124861⟩, ⟨0x1EE06, 0x1EE06, 1, -124884⟩,
   ⟨0x1EE07, 0x1EE07, 1, -124890⟩, ⟨0x1EE08, 0x1EE08, 1, -124881⟩, ⟨0x1EE09, 0x1EE09, 1, -124863⟩,
   ⟨0x1EE0A, 0x1EE0D, 1, -124871⟩, ⟨0x1EE0E, 0x1EE0E, 1, -124891⟩, ⟨0x1EE0F, 0x1EE0F, 1, -124886⟩,
   ⟨0x1EE10, 0x1EE10, 1, -124879⟩, ⟨0x1EE11, 0x1EE11, 1, -124892⟩, ⟨0x1EE12, 0x1EE12, 1, -124880⟩,
   ⟨0x1EE13, 0x1EE13, 1, -124898⟩, ⟨0x1EE14, 0x1EE14, 1, -124896⟩, ⟨0x1EE15, 0x1EE16, 1, -124907⟩,
   ⟨0x1EE17, 0x1EE17, 1, -124905⟩, ⟨0x1EE18, 0x1EE18, 1, -124904⟩, ⟨0x1EE19, 0x1EE19, 1, -124899⟩,
   ⟨0x1EE1A, 0x1EE1A, 1, -124898⟩, ⟨0x1EE1B, 0x1EE1B, 1, -124897⟩, ⟨0x1EE1C, 0x1EE1C, 1, -124846⟩,
   ⟨0x1EE1D, 0x1EE1D, 1, -124771⟩, ⟨0x1EE1E, 0x1EE1E, 1, -124797⟩, ⟨0x1EE1F, 0x1EE1F, 1, -124848⟩,
   ⟨0x1EE21, 0x1EE21, 1, -124921⟩, ⟨0x1EE22, 0x1EE22, 1, -124918⟩, ⟨0x1EE24, 0x1EE24, 1, -124893⟩,
   ⟨0x1EE27, 0x1EE27, 1, -124922⟩, ⟨0x1EE29, 0x1EE29, 1, -124895⟩, ⟨0x1EE2A, 0x1EE2D, 1, -124903⟩,
   ⟨0x1EE2E, 0x1EE2E, 1, -124923⟩, ⟨0x1EE2F, 0x1EE2F, 1, -124918⟩, ⟨0x1EE30, 0x1EE30, 1, -124911⟩,
   ⟨0x1EE31, 0x1EE31, 1, -124924⟩, ⟨0x1EE32, 0x1EE32, 1, -124912⟩, ⟨0x1EE34, 0x1EE34, 1, -124928⟩,
   ⟨0x1EE35, 0x1EE36, 1, -124939⟩, ⟨0x1EE37, 0x1EE37, 1, -124937⟩, ⟨0x1EE39, 0x1EE39, 1, -124931⟩,
   ⟨0x1EE3B, 0x1EE3B, 1, -124929⟩, ⟨0x1EE42, 0x1EE42, 1, -124950⟩, ⟨0x1EE47, 0x1EE47, 1, -124954⟩,
   ⟨0x1EE49, 0x1EE49, 1, -124927⟩, ⟨0x1EE4B, 0x1EE4D, 2, -124935⟩, ⟨0x1EE4E, 0x1EE4E, 1, -124955⟩,
   ⟨0x1EE4F, 0x1EE4F, 1, -124950⟩, ⟨0x1EE51, 0x1EE51, 1, -124956⟩, ⟨0x1EE52, 0x1EE52, 1, -124944⟩,
   ⟨0x1EE54, 0x1EE54, 1, -124960⟩, ⟨0x1EE57, 0x1EE57, 1, -124969⟩, ⟨0x1EE59, 0x1EE59, 1, -124963⟩,
   ⟨0x1EE5B, 0x1EE5B, 1, -124961⟩, ⟨0x1EE5D, 0x1EE5D, 1, -124835⟩, ⟨0x1EE5F, 0x1EE5F, 1, -124912⟩,
   ⟨0x1EE61, 0x1EE61, 1, -124985⟩, ⟨0x1EE62, 0x1EE62, 1, -124982⟩, ⟨0x1EE64, 0x1EE64, 1, -124957⟩,
   ⟨0x1EE67, 0x1EE67, 1, -124986⟩, ⟨0x1EE68, 0x1EE68, 1, -124977⟩, ⟨0x1EE69, 0x1EE69, 1, -124959⟩,
   ⟨0x1EE6A, 0x1EE6C, 2, -124967⟩, ⟨0x1EE6D, 0x1EE6D, 1, -124967⟩, ⟨0x1EE6E, 0x1EE6E, 1, -124987⟩,
   ⟨0x1EE6F, 0x1EE6F, 1, -124982⟩, ⟨0x1EE70, 0x1EE70, 1, -124975⟩, ⟨0x1EE71, 0x1EE71, 1, -124988⟩,
   ⟨0x1EE72, 0x1EE72, 1, -124976⟩, ⟨0x1EE74, 0x1EE74, 1, -124992⟩, ⟨0x1EE75, 0x1EE76, 1, -125003⟩,
   ⟨0x1EE77, 0x1EE77, 1, -125001⟩, ⟨0x1EE79, 0x1EE79, 1, -124995⟩, ⟨0x1EE7A, 0x1EE7A, 1, -124994⟩,
   ⟨0x1EE7B, 0x1EE7B, 1, -124993⟩, ⟨0x1EE7C, 0x1EE7C, 1, -124942⟩, ⟨0x1EE7E, 0x1EE7E, 1, -124893⟩,
   ⟨0x1EE80, 0x1EE81, 1, -125017⟩, ⟨0x1EE82, 0x1EE82, 1, -125014⟩, ⟨0x1EE83, 0x1EE83, 1, -125012⟩,
   ⟨0x1EE84, 0x1EE85, 1, -124989⟩, ⟨0x1EE86, 0x1EE86, 1, -125012⟩, ⟨0x1EE87, 0x1EE87, 1, -125018⟩,
   ⟨0x1EE88, 0x1EE88, 1, -125009⟩, ⟨0x1EE89, 0x1EE89, 1, -124991⟩, ⟨0x1EE8B, 0x1EE8D, 1, -124999⟩,
   ⟨0x1EE8E, 0x1EE8E, 1, -125019⟩, ⟨0x1EE8F, 0x1EE8F, 1, -125014⟩, ⟨0x1EE90, 0x1EE90, 1, -125007⟩,
   ⟨0x1EE91, 0x1EE91, 1, -125020⟩, ⟨0x1EE92, 0x1EE92, 1, -125008⟩, ⟨0x1EE93, 0x1EE93, 1, -125026⟩,
   ⟨0x1EE94, 0x1EE94, 1, -125024⟩, ⟨0x1EE95, 0x1EE96, 1, -125035⟩, ⟨0x1EE97, 0x1EE97, 1, -125033⟩,
   ⟨0x1EE98, 0x1EE98, 1, -125032⟩, ⟨0x1EE99, 0x1EE99, 1, -125027⟩, ⟨0x1EE9A, 0x1EE9A, 1, -125026⟩,
   ⟨0x1EE9B, 0x1EE9B, 1, -125025⟩, ⟨0x1EEA1, 0x1EEA1, 1, -125049⟩, ⟨0x1EEA2, 0x1EEA2, 1, -125046⟩,
   ⟨0x1EEA3, 0x1EEA3, 1, -125044⟩, ⟨0x1EEA5, 0x1EEA5, 1, -125021⟩, ⟨0x1EEA6, 0x1EEA6, 1, -125044⟩,
   ⟨0x1EEA7, 0x1EEA7, 1, -125050⟩, ⟨0x1EEA8, 0x1EEA8, 1, -125041⟩, ⟨0x1EEA9, 0x1EEA9, 1, -125023⟩,
   ⟨0x1EEAB, 0x1EEAD, 1, -125031⟩, ⟨0x1EEAE, 0x1EEAE, 1, -125051⟩, ⟨0x1EEAF, 0x1EEAF, 1, -125046⟩,
   ⟨0x1EEB0, 0x1EEB0, 1, -125039⟩, ⟨0x1EEB1, 0x1EEB1, 1, -125052⟩, ⟨0x1EEB2, 0x1EEB2, 1, -125040⟩,
   ⟨0x1EEB3, 0x1EEB3, 1, -125058⟩, ⟨0x1EEB4, 0x1EEB4, 1, -125056⟩, ⟨0x1EEB5, 0x1EEB6, 1, -125067⟩,
   ⟨0x1EEB7, 0x1EEB7, 1, -125065⟩, ⟨0x1EEB8, 0x1EEB8, 1, -125064⟩, ⟨0x1EEB9, 0x1EEB9, 1, -125059⟩,
   ⟨0x1EEBA, 0x1EEBA, 1, -125058⟩, ⟨0x1EEBB, 0x1EEBB, 1, -125057⟩, ⟨0x1F12B, 0x1F12B, 1, -127176⟩,
   ⟨0x1F12C, 0x1F12C, 1, -127162⟩, ⟨0x1F130, 0x1F149, 1, -127183⟩, ⟨0x1F202, 0x1F202, 1, -115021⟩,
   ⟨0x1F210, 0x1F210, 1, -102341⟩, ⟨0x1F211, 0x1F211, 1, -104122⟩, ⟨0x1F212, 0x1F212, 1, -106054⟩,
   ⟨0x1F213, 0x1F213, 1, -115020⟩, ⟨0x1F214, 0x1F214, 1, -107400⟩, ⟨0x1F215, 0x1F215, 1, -104699⟩,
   ⟨0x1F216, 0x1F216, 1, -92211⟩, ⟨0x1F217, 0x1F217, 1, -104686⟩, ⟨0x1F218, 0x1F218, 1, -107380⟩,
   ⟨0x1F219, 0x1F219, 1, -101369⟩, ⟨0x1F21A, 0x1F21A, 1, -98553⟩, ⟨0x1F21B, 0x1F21B, 1, -101506⟩,
   ⟨0x1F21C, 0x1F21C, 1, -106447⟩, ⟨0x1F21D, 0x1F21D, 1, -103057⟩, ⟨0x1F21E, 0x1F21E, 1, -106641⟩,
   ⟨0x1F21F, 0x1F21F, 1, -101487⟩, ⟨0x1F220, 0x1F220, 1, -106499⟩, ⟨0x1F221, 0x1F221, 1, -95455⟩,
   ⟨0x1F222, 0x1F222, 1, -97539⟩, ⟨0x1F223, 0x1F223, 1, -91514⟩, ⟨0x1F224, 0x1F224, 1, -104756⟩,
   ⟨0x1F225, 0x1F225, 1, -105964⟩, ⟨0x1F226, 0x1F226, 1, -99090⟩, ⟨0x1F227, 0x1F227, 1, -102290⟩,
   ⟨0x1F228, 0x1F228, 1, -102099⟩, ⟨0x1F229, 0x1F229, 1, -107561⟩, ⟨0x1F22A, 0x1F22A, 1, -107553⟩,
   ⟨0x1F22B, 0x1F22B, 1, -90593⟩, ⟨0x1F22C, 0x1F22C, 1, -103494⟩, ⟨0x1F22D, 0x1F22D, 1, -107520⟩,
   ⟨0x1F22E, 0x1F22E, 1, -106043⟩, ⟨0x1F22F, 0x1F22F, 1, -102184⟩, ⟨0x1F230, 0x1F230, 1, -91328⟩,
   ⟨0x1F231, 0x1F231, 1, -102366⟩, ⟨0x1F232, 0x1F232, 1, -96433⟩, ⟨0x1F233, 0x1F233, 1, -96185⟩,
   ⟨0x1F234, 0x1F234, 1, -106028⟩, ⟨0x1F235, 0x1F235, 1, -99253⟩, ⟨0x1F236, 0x1F236, 1, -101165⟩,
   ⟨0x1F237, 0x1F237, 1, -101167⟩, ⟨0x1F238, 0x1F238, 1, -97541⟩, ⟨0x1F239, 0x1F239, 1, -106439⟩,
   ⟨0x1F23A, 0x1F23A, 1, -105604⟩, ⟨0x1F23B, 0x1F23B, 1, -90350⟩, ⟨0x1F250, 0x1F250, 1, -103097⟩,
   ⟨0x1F251, 0x1F251, 1, -106082⟩, ⟨0x1FBF0, 0x1FBF9, 1, -129984⟩]

end FieldCheck.Domain
