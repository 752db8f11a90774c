/-!
# Stringprep data

The tables of the stringprep profile for internationalized host names, in the
text forms that `MaskedLog.Unicode.CodeText` reads. Characters are looked up
by code point; the tables were derived for Unicode 3.2, case mapping aside,
which follows the lower case of Unicode 14.0.

* `silentText` — characters mapped to nothing, as ranges.
* `caseFoldText` — the mapping of the remaining characters that change, as a
  code map: lower case, with compatibility forms folded.
* `prohibitedText` — characters a host name may not hold, as ranges.
* `rightToLeftText`, `leftToRightText` — characters of right-to-left and of
  left-to-right direction, as ranges.

## References

Python's `stringprep` module.
-/

namespace MaskedLog.Unicode

/-- Characters mapped to nothing. -/
def silentText : List String := [
  "AD-AD,34F-34F,1806-1806,180B-180D,200B-200D,2060-2060,FE00-FE0F,FEFF-FEFF"]

/-- The mapping of characters that change. -/
def caseFoldText : List String := [
  "41:61+19,5A:3BC,A:E0+16,1:F8+6,:73 73,20:101,1:103,1:105,1:107,1:109,1:10B,1:10D,1:10F,1:111,1:113,1:115,1:117,1:119,1:11B,1:11D,1:11F,1:121,1:123,1:125,1:127,1:129,1:12B,1:12D,1:12F,1:69 307,1:133,1:135,1:137,2:13A,1:13C,1:13E,1:140,1:142,1:144,1:146,1:148,1:2BC 6E,:14B,1:14D,1:14F,1:151,1:153,1:155,1:157,1:159,1:15B,1:15D,1:15F,1:161,1:163,1:165,1:167,1:169,1:16B,1:16D,1:16F,1:171,1:173,1:175,1:177,1:FF,:17A,1:17C,1:17E,1:73,1:253,:183,1:185,1:254,:188,1:256+1,:18C,2:1DD,:259,:25B,:192,1:260,:263,1:269,:268,:199,3:26F,:272,1:275,:1A1,1:1A3,1:1A5,1:280,:1A8,1:283,2:1AD,1:288,:1B0,1:28A+1,:1B4,1:1B6,1:292,:1B9,3:1BD,7:1C6,:1C6,1:1C9,:1C9,1:1CC,:1CC,1:1CE,1:1D0,1:1D2,1:1D4,1:1D6,1:1D8,1:1DA,1:1DC,2:1DF,1:1E1,1:1E3,1:1E5,1:1E7,1:1E9,1:1EB,1:1ED,1:1EF,1:6A 30C,:1F3,:1F3,1:1F5,1:195,:1BF,:1F9,1:1FB,1:1FD,1:1FF,1:201,1:203,1:205,1:207,1:209,1:20B,1:20D,1:20F,1:211,1:213,1:215,1:217,1:219,1:21B,1:21D,1:21F,1:19E,1:223,1:225,1:227,1:229,1:22B,1:22D,1:22F,1:231,1:233,7:2C65,:23C,1:19A,:2C66,2:242,1:180,:289,:28C,:247,1:249,1:24B,1:24D,1:24F,F6:3B9,2A:371,1:373,3:377,3:20 3B9,4:3F3,6:3AC,1:3AD+2,1:3CC,1:3CD+1,:3B9 308 301,:3B1+10,1:3C3+8,4:3C5 308 301,11:3C3,C:3D7,:3B2,:3B8,:3C5,:3CD,:3CB,:3C6,:3C0,1:3D9,1:3DB,1:3DD,1:3DF,1:3E1,1:3E3,1:3E5,1:3E7,1:3E9,1:3EB,1:3ED,1:3EF,1:3BA,:3C1,:3C3,1:3B8,:3B5,1:3F8,1:3C3,:3FB,2:37B+2,:450+F,:430+1F,30:461,1:463,1:465,1:467,1:469,1:46B,1:46D,1:46F,1:471,1:473,1:475,1:477,1:479,1:47B,1:47D,1:47F,1:481,9:48B,1:48D,1:48F,1:491,1:493,1:495,1:497,1:499",
  "1:49B,1:49D,1:49F,1:4A1,1:4A3,1:4A5,1:4A7,1:4A9,1:4AB,1:4AD,1:4AF,1:4B1,1:4B3,1:4B5,1:4B7,1:4B9,1:4BB,1:4BD,1:4BF,1:4CF,:4C2,1:4C4,1:4C6,1:4C8,1:4CA,1:4CC,1:4CE,2:4D1,1:4D3,1:4D5,1:4D7,1:4D9,1:4DB,1:4DD,1:4DF,1:4E1,1:4E3,1:4E5,1:4E7,1:4E9,1:4EB,1:4ED,1:4EF,1:4F1,1:4F3,1:4F5,1:4F7,1:4F9,1:4FB,1:4FD,1:4FF,1:501,1:503,1:505,1:507,1:509,1:50B,1:50D,1:50F,1:511,1:513,1:515,1:517,1:519,1:51B,1:51D,1:51F,1:521,1:523,1:525,1:527,1:529,1:52B,1:52D,1:52F,2:561+25,30:565 582,B18:2D00+25,1:2D27,5:2D2D,2D2:AB70+4F,:13F8+5,89A:10D0+2A,2:10FD+2,140:1E01,1:1E03,1:1E05,1:1E07,1:1E09,1:1E0B,1:1E0D,1:1E0F,1:1E11,1:1E13,1:1E15,1:1E17,1:1E19,1:1E1B,1:1E1D,1:1E1F,1:1E21,1:1E23,1:1E25,1:1E27,1:1E29,1:1E2B,1:1E2D,1:1E2F,1:1E31,1:1E33,1:1E35,1:1E37,1:1E39,1:1E3B,1:1E3D,1:1E3F,1:1E41,1:1E43,1:1E45,1:1E47,1:1E49,1:1E4B,1:1E4D,1:1E4F,1:1E51,1:1E53,1:1E55,1:1E57,1:1E59,1:1E5B,1:1E5D,1:1E5F,1:1E61,1:1E63,1:1E65,1:1E67,1:1E69,1:1E6B,1:1E6D,1:1E6F,1:1E71,1:1E73,1:1E75,1:1E77,1:1E79,1:1E7B,1:1E7D,1:1E7F,1:1E81,1:1E83,1:1E85,1:1E87,1:1E89,1:1E8B,1:1E8D,1:1E8F,1:1E91,1:1E93,1:1E95,1:68 331,:74 308,:77 30A,:79 30A,:61 2BE,:1E61,2:73 73,1:1EA1,1:1EA3,1:1EA5,1:1EA7,1:1EA9,1:1EAB,1:1EAD,1:1EAF,1:1EB1,1:1EB3,1:1EB5,1:1EB7,1:1EB9,1:1EBB,1:1EBD,1:1EBF,1:1EC1,1:1EC3,1:1EC5,1:1EC7,1:1EC9,1:1ECB,1:1ECD,1:1ECF,1:1ED1,1:1ED3,1:1ED5,1:1ED7,1:1ED9,1:1EDB,1:1EDD,1:1EDF,1:1EE1,1:1EE3,1:1EE5,1:1EE7,1:1EE9,1:1EEB,1:1EED,1:1EEF,1:1EF1,1:1EF3,1:1EF5,1:1EF7,1:1EF9,1:1EFB,1:1EFD,1:1EFF,9:1F00+7,8:1F10+5,A:1F20+7,8:1F30+7,8:1F40+5",
  "2:3C5 313,1:3C5 313 300,1:3C5 313 301,1:3C5 313 342,2:1F51,1:1F53,1:1F55,1:1F57,8:1F60+7,10:1F00 3B9,:1F01 3B9,:1F02 3B9,:1F03 3B9,:1F04 3B9,:1F05 3B9,:1F06 3B9,:1F07 3B9,:1F00 3B9,:1F01 3B9,:1F02 3B9,:1F03 3B9,:1F04 3B9,:1F05 3B9,:1F06 3B9,:1F07 3B9,:1F20 3B9,:1F21 3B9,:1F22 3B9,:1F23 3B9,:1F24 3B9,:1F25 3B9,:1F26 3B9,:1F27 3B9,:1F20 3B9,:1F21 3B9,:1F22 3B9,:1F23 3B9,:1F24 3B9,:1F25 3B9,:1F26 3B9,:1F27 3B9,:1F60 3B9,:1F61 3B9,:1F62 3B9,:1F63 3B9,:1F64 3B9,:1F65 3B9,:1F66 3B9,:1F67 3B9,:1F60 3B9,:1F61 3B9,:1F62 3B9,:1F63 3B9,:1F64 3B9,:1F65 3B9,:1F66 3B9,:1F67 3B9,2:1F70 3B9,:3B1 3B9,:3AC 3B9,1:3B1 342,:3B1 342 3B9,:1FB0+1,:1F70+1,:3B1 3B9,1:3B9,3:1F74 3B9,:3B7 3B9,:3AE 3B9,1:3B7 342,:3B7 342 3B9,:1F72+3,:3B7 3B9,5:3B9 308 300+1,2:3B9 342,:3B9 308 342,:1FD0+1,:1F76+1,6:3C5 308 300+1,:3C1 313,1:3C5 342,:3C5 308 342,:1FE0+1,:1F7A+1,:1FE5,5:1F7C 3B9,:3C9 3B9,:3CE 3B9,1:3C9 342,:3C9 342 3B9,:1F78+1,:1F7C+1,:3C9 3B9,AB:72 73,59:63,:B0 63,3:25B,1:B0 66,1:68,:68,:68,2:69,:69,:6C,2:6E,:6E 6F,2:70+2,:72,:72,2:73 6D,:74 65 6C,:74 6D,1:7A,1:3C9,1:7A,1:6B,:E5,:62+1,2:65+1,:214E,:6D,A:3B3,:3C0,5:64,1A:2170+F,13:2184,332:24D0+19,730:2C30+2F,30:2C61,1:26B,:1D7D,:27D,2:2C68,1:2C6A,1:2C6C,1:251,:271,:250,:252,1:2C73,2:2C76,8:23F+1,:2C81,1:2C83,1:2C85,1:2C87,1:2C89,1:2C8B,1:2C8D,1:2C8F,1:2C91,1:2C93,1:2C95,1:2C97,1:2C99,1:2C9B,1:2C9D,1:2C9F,1:2CA1,1:2CA3,1:2CA5,1:2CA7,1:2CA9,1:2CAB,1:2CAD,1:2CAF,1:2CB1,1:2CB3,1:2CB5,1:2CB7,1:2CB9,1:2CBB,1:2CBD,1:2CBF,1:2CC1,1:2CC3,1:2CC5,1:2CC7,1:2CC9,1:2CCB",
  "1:2CCD,1:2CCF,1:2CD1,1:2CD3,1:2CD5,1:2CD7,1:2CD9,1:2CDB,1:2CDD,1:2CDF,1:2CE1,1:2CE3,8:2CEC,1:2CEE,4:2CF3,67E:68 70 61,1:61 75,1:6F 76,A:70 61,:6E 61,:3BC 61,:6D 61,:6B 61+1,:6D 62,:67 62,2:70 66,:6E 66,:3BC 66,3:68 7A,:6B 68 7A,:6D 68 7A,:67 68 7A,:74 68 7A,14:70 61,:6B 70 61,:6D 70 61,:67 70 61,7:70 76,:6E 76,:3BC 76,:6D 76,:6B 76,:6D 76,:70 77,:6E 77,:3BC 77,:6D 77,:6B 77,:6D 77,:6B 3C9,:6D 3C9,1:62 71,2:63 2215 6B 67,:63 6F 2E,:64 62,:67 79,1:68 70,1:6B 6B,:6B 6D,8:70 68,1:70 70 6D,:70 72,1:73 76,:77 62,7262:A641,1:A643,1:A645,1:A647,1:A649,1:A64B,1:A64D,1:A64F,1:A651,1:A653,1:A655,1:A657,1:A659,1:A65B,1:A65D,1:A65F,1:A661,1:A663,1:A665,1:A667,1:A669,1:A66B,1:A66D,13:A681,1:A683,1:A685,1:A687,1:A689,1:A68B,1:A68D,1:A68F,1:A691,1:A693,1:A695,1:A697,1:A699,1:A69B,87:A723,1:A725,1:A727,1:A729,1:A72B,1:A72D,1:A72F,3:A733,1:A735,1:A737,1:A739,1:A73B,1:A73D,1:A73F,1:A741,1:A743,1:A745,1:A747,1:A749,1:A74B,1:A74D,1:A74F,1:A751,1:A753,1:A755,1:A757,1:A759,1:A75B,1:A75D,1:A75F,1:A761,1:A763,1:A765,1:A767,1:A769,1:A76B,1:A76D,1:A76F,A:A77A,1:A77C,1:1D79,:A77F,1:A781,1:A783,1:A785,1:A787,4:A78C,1:265,2:A791,1:A793,3:A797,1:A799,1:A79B,1:A79D,1:A79F,1:A7A1,1:A7A3,1:A7A5,1:A7A7,1:A7A9,1:266,:25C,:261,:26C,:26A,1:29E,:287,:29D,:AB53,:A7B5,1:A7B7,1:A7B9,1:A7BB,1:A7BD,1:A7BF,1:A7C1,1:A7C3,1:A794,:282,:1D8E,:A7C8,1:A7CA,6:A7D1,5:A7D7,1:A7D9,1C:A7F6,530A:66 66,:66 69,:66 6C,:66 66 69,:66 66 6C,:73 74,:73 74,C:574 576,:574 565,:574 56B,:57E 576,:574 56D,409:FF41+19,4C5:10428+27,88:104D8+23",
  "9C:10597+A,1:105A3+E,1:105B3+6,1:105BB+1,6EA:10CC0+32,BED:118C0+1F,5580:16E60+1F,65A0:61+19,1A:61+19,1A:61+19,1A:61,1:63+1,2:67,2:6A+1,2:6E+3,1:73+7,1A:61+19,1A:61+1,1:64+3,2:6A+7,1:73+6,1B:61+1,1:64+3,1:69+4,1:6F,3:73+6,1B:61+19,1A:61+19,1A:61+19,1A:61+19,1A:61+19,1A:61+19,1E:3B1+10,:3B8,:3C3+6,12:3C3,E:3B1+10,:3B8,:3C3+6,12:3C3,E:3B1+10,:3B8,:3C3+6,12:3C3,E:3B1+10,:3B8,:3C3+6,12:3C3,E:3B1+10,:3B8,:3C3+6,12:3C3,1144:1E922+21"]

/-- Characters a host name may not hold. -/
def prohibitedText : List String := [
  "80-A0,340-341,6DD-6DD,70F-70F,1680-1680,180E-180E,2000-200F,2028-202F,205F-2063,206A-206F,2FF0-2FFB,3000-3000,D800-F8FF,FDD0-FDEF,FEFF-FEFF,FFF9-FFFF,1D173-1D17A,1FFFE-1FFFF,2FFFE-2FFFF,3FFFE-3FFFF,4FFFE-4FFFF,5FFFE-5FFFF,6FFFE-6FFFF,7FFFE-7FFFF,8FFFE-8FFFF,9FFFE-9FFFF,AFFFE-AFFFF,BFFFE-BFFFF,CFFFE-CFFFF,DFFFE-DFFFF,E0001-E0001,E0020-E007F,EFFFE-10FFFF"]

/-- Characters of right-to-left direction. -/
def rightToLeftText : List String := [
  "5BE-5BE,5C0-5C0,5C3-5C3,5D0-5EA,5F0-5F4,61B-61B,61F-61F,621-63A,640-64A,66D-66F,671-6D5,6DD-6DD,6E5-6E6,6FA-6FE,700-70D,710-710,712-72C,780-7A5,7B1-7B1,200F-200F,FB1D-FB1D,FB1F-FB28,FB2A-FB36,FB38-FB3C,FB3E-FB3E,FB40-FB41,FB43-FB44,FB46-FBB1,FBD3-FD3D,FD50-FD8F,FD92-FDC7,FDF0-FDFC,FE70-FE74,FE76-FEFC"]

/-- Characters of left-to-right direction. -/
def leftToRightText : List String := [
  "41-5A,61-7A,AA-AA,B5-B5,BA-BA,C0-D6,D8-F6,F8-220,222-233,250-2AD,2B0-2B8,2BB-2C1,2D0-2D1,2E0-2E4,2EE-2EE,37A-37A,386-386,388-38A,38C-38C,38E-3A1,3A3-3CE,3D0-3F5,400-482,48A-4CE,4D0-4F5,4F8-4F9,500-50F,531-556,559-55F,561-587,589-589,903-903,905-939,93D-940,949-94C,950-950,958-961,964-970,982-983,985-98C,98F-990,993-9A8,9AA-9B0,9B2-9B2,9B6-9B9,9BE-9C0,9C7-9C8,9CB-9CC,9D7-9D7,9DC-9DD,9DF-9E1,9E6-9F1,9F4-9FA,A05-A0A,A0F-A10,A13-A28,A2A-A30,A32-A33,A35-A36,A38-A39,A3E-A40,A59-A5C,A5E-A5E,A66-A6F,A72-A74,A83-A83,A85-A8B,A8D-A8D,A8F-A91,A93-AA8,AAA-AB0,AB2-AB3,AB5-AB9,ABD-AC0,AC9-AC9,ACB-ACC,AD0-AD0,AE0-AE0,AE6-AEF,B02-B03,B05-B0C,B0F-B10,B13-B28,B2A-B30,B32-B33,B36-B39,B3D-B3E,B40-B40,B47-B48,B4B-B4C,B57-B57,B5C-B5D,B5F-B61,B66-B70,B83-B83,B85-B8A,B8E-B90,B92-B95,B99-B9A,B9C-B9C,B9E-B9F,BA3-BA4,BA8-BAA,BAE-BB5,BB7-BB9,BBE-BBF,BC1-BC2,BC6-BC8,BCA-BCC,BD7-BD7,BE7-BF2,C01-C03,C05-C0C,C0E-C10,C12-C28,C2A-C33,C35-C39,C41-C44,C60-C61,C66-C6F,C82-C83,C85-C8C,C8E-C90,C92-CA8,CAA-CB3,CB5-CB9,CBE-CBE,CC0-CC4,CC7-CC8,CCA-CCB,CD5-CD6,CDE-CDE,CE0-CE1,CE6-CEF,D02-D03,D05-D0C,D0E-D10,D12-D28,D2A-D39,D3E-D40,D46-D48,D4A-D4C,D57-D57,D60-D61,D66-D6F,D82-D83,D85-D96,D9A-DB1,DB3-DBB,DBD-DBD,DC0-DC6,DCF-DD1,DD8-DDF,DF2-DF4,E01-E30,E32-E33,E40-E46,E4F-E5B,E81-E82,E84-E84,E87-E88,E8A-E8A,E8D-E8D,E94-E97,E99-E9F,EA1-EA3,EA5-EA5,EA7-EA7,EAA-EAB,EAD-EB0,EB2-EB3,EBD-EBD,EC0-EC4,EC6-EC6,ED0-ED9,EDC-EDD,F00-F17,F1A-F34,F36-F36,F38-F38,F3E-F47,F49-F6A,F7F-F7F,F85-F85,F88-F8B,FBE-FC5,FC7-FCC,FCF-FCF,1000-1021",
  "1023-1027,1029-102A,102C-102C,1031-1031,1038-1038,1040-1057,10A0-10C5,10D0-10F8,10FB-10FB,1100-1159,115F-11A2,11A8-11F9,1200-1206,1208-1246,1248-1248,124A-124D,1250-1256,1258-1258,125A-125D,1260-1286,1288-1288,128A-128D,1290-12AE,12B0-12B0,12B2-12B5,12B8-12BE,12C0-12C0,12C2-12C5,12C8-12CE,12D0-12D6,12D8-12EE,12F0-130E,1310-1310,1312-1315,1318-131E,1320-1346,1348-135A,1361-137C,13A0-13F4,1401-1676,1681-169A,16A0-16F0,1700-170C,170E-1711,1720-1731,1735-1736,1740-1751,1760-176C,176E-1770,1780-17B6,17BE-17C5,17C7-17C8,17D4-17DA,17DC-17DC,17E0-17E9,1810-1819,1820-1877,1880-18A8,1E00-1E9B,1EA0-1EF9,1F00-1F15,1F18-1F1D,1F20-1F45,1F48-1F4D,1F50-1F57,1F59-1F59,1F5B-1F5B,1F5D-1F5D,1F5F-1F7D,1F80-1FB4,1FB6-1FBC,1FBE-1FBE,1FC2-1FC4,1FC6-1FCC,1FD0-1FD3,1FD6-1FDB,1FE0-1FEC,1FF2-1FF4,1FF6-1FFC,200E-200E,2071-2071,207F-207F,2102-2102,2107-2107,210A-2113,2115-2115,2119-211D,2124-2124,2126-2126,2128-2128,212A-212D,212F-2131,2133-2139,213D-213F,2145-2149,2160-2183,2336-237A,2395-2395,249C-24E9,3005-3007,3021-3029,3031-3035,3038-303C,3041-3096,309D-309F,30A1-30FA,30FC-30FF,3105-312C,3131-318E,3190-31B7,31F0-321C,3220-3243,3260-327B,327F-32B0,32C0-32CB,32D0-32FE,3300-3376,337B-33DD,33E0-33FE,3400-4DB5,4E00-9FA5,A000-A48C,AC00-D7A3,D800-FA2D,FA30-FA6A,FB00-FB06,FB13-FB17,FF21-FF3A,FF41-FF5A,FF66-FFBE,FFC2-FFC7,FFCA-FFCF,FFD2-FFD7,FFDA-FFDC,10300-1031E,10320-10323,10330-1034A,10400-10425,10428-1044D,1D000-1D0F5,1D100-1D126,1D12A-1D166,1D16A-1D172,1D183-1D184,1D18C-1D1A9,1D1AE-1D1DD,1D400-1D454",
  "1D456-1D49C,1D49E-1D49F,1D4A2-1D4A2,1D4A5-1D4A6,1D4A9-1D4AC,1D4AE-1D4B9,1D4BB-1D4BB,1D4BD-1D4C0,1D4C2-1D4C3,1D4C5-1D505,1D507-1D50A,1D50D-1D514,1D516-1D51C,1D51E-1D539,1D53B-1D53E,1D540-1D544,1D546-1D546,1D54A-1D550,1D552-1D6A3,1D6A8-1D7C9,20000-2A6D6,2F800-2FA1D,F0000-FFFFD,100000-10FFFD"]

end MaskedLog.Unicode
