/-!
# Normalization data

The tables behind `MaskedLog.Unicode.Normalize`, in the text forms that
`MaskedLog.Unicode.CodeText` reads.

* `compatDecompText` — the full compatibility decomposition of every character
  of Unicode 3.2 that has one, Hangul syllables apart (their decomposition is
  arithmetic), as a code map.
* `combiningClassText` — the canonical combining classes of Unicode 14.0 that
  are not zero, as ranges with values.
* `compositionText` — the canonical pair of every primary composite of
  Unicode 14.0, as a code map.

## References

`unicodedata.ucd_3_2_0` of Python.
-/

namespace MaskedLog.Unicode

/-- Full compatibility decompositions of Unicode 3.2. -/
def compatDecompText : List String := [
  "A0:20,7:20 308,1:61,4:20 304,2:32+1,:20 301,:3BC,2:20 327,:31,:6F,1:31 2044 34,:31 2044 32,:33 2044 34,1:41 300+3,:41 308,:41 30A,1:43 327,:45 300+2,:45 308,:49 300+2,:49 308,1:4E 303,:4F 300+3,:4F 308,2:55 300+2,:55 308,:59 301,2:61 300+3,:61 308,:61 30A,1:63 327,:65 300+2,:65 308,:69 300+2,:69 308,1:6E 303,:6F 300+3,:6F 308,2:75 300+2,:75 308,:79 301,1:79 308,:41 304,:61 304,:41 306,:61 306,:41 328,:61 328,:43 301,:63 301,:43 302,:63 302,:43 307,:63 307,:43 30C,:63 30C,:44 30C,:64 30C,2:45 304,:65 304,:45 306,:65 306,:45 307,:65 307,:45 328,:65 328,:45 30C,:65 30C,:47 302,:67 302,:47 306,:67 306,:47 307,:67 307,:47 327,:67 327,:48 302,:68 302,2:49 303,:69 303,:49 304,:69 304,:49 306,:69 306,:49 328,:69 328,:49 307,1:49 4A,:69 6A,:4A 302,:6A 302,:4B 327,:6B 327,1:4C 301,:6C 301,:4C 327,:6C 327,:4C 30C,:6C 30C,:4C B7,:6C B7,2:4E 301,:6E 301,:4E 327,:6E 327,:4E 30C,:6E 30C,:2BC 6E,2:4F 304,:6F 304,:4F 306,:6F 306,:4F 30B,:6F 30B,2:52 301,:72 301,:52 327,:72 327,:52 30C,:72 30C,:53 301,:73 301,:53 302,:73 302,:53 327,:73 327,:53 30C,:73 30C,:54 327,:74 327,:54 30C,:74 30C,2:55 303,:75 303,:55 304,:75 304,:55 306,:75 306,:55 30A,:75 30A,:55 30B,:75 30B,:55 328,:75 328,:57 302,:77 302,:59 302,:79 302,:59 308,:5A 301,:7A 301,:5A 307,:7A 307,:5A 30C,:7A 30C,:73,20:4F 31B,:6F 31B,D:55 31B,:75 31B,13:44 5A 30C,:44 7A 30C,:64 7A 30C,:4C 4A,:4C 6A,:6C 6A,:4E 4A,:4E 6A,:6E 6A,:41 30C,:61 30C,:49 30C,:69 30C,:4F 30C,:6F 30C,:55 30C,:75 30C,:55 308 304,:75 308 304,:55 308 301,:75 308 301",
  ":55 308 30C,:75 308 30C,:55 308 300,:75 308 300,1:41 308 304,:61 308 304,:41 307 304,:61 307 304,:C6 304,:E6 304,2:47 30C,:67 30C,:4B 30C,:6B 30C,:4F 328,:6F 328,:4F 328 304,:6F 328 304,:1B7 30C,:292 30C,:6A 30C,:44 5A,:44 7A,:64 7A,:47 301,:67 301,2:4E 300,:6E 300,:41 30A 301,:61 30A 301,:C6 301,:E6 301,:D8 301,:F8 301,:41 30F,:61 30F,:41 311,:61 311,:45 30F,:65 30F,:45 311,:65 311,:49 30F,:69 30F,:49 311,:69 311,:4F 30F,:6F 30F,:4F 311,:6F 311,:52 30F,:72 30F,:52 311,:72 311,:55 30F,:75 30F,:55 311,:75 311,:53 326,:73 326,:54 326,:74 326,2:48 30C,:68 30C,6:41 307,:61 307,:45 327,:65 327,:4F 308 304,:6F 308 304,:4F 303 304,:6F 303 304,:4F 307,:6F 307,:4F 307 304,:6F 307 304,:59 304,:79 304,7C:68,:266,:6A,:72,:279,:27B,:281,:77,:79,1F:20 306+1,:20 30A,:20 328,:20 303,:20 30B,2:263,:6C,:73,:78,:295,5B:300+1,1:313,:308 301,2F:2B9,5:20 345,3:3B,5:20 301,:20 308 301,:391 301,:B7,:395 301,:397 301,:399 301,1:39F 301,1:3A5 301,:3A9 301,:3B9 308 301,19:399 308,:3A5 308,:3B1 301,:3B5 301,:3B7 301,:3B9 301,:3C5 308 301,19:3B9 308,:3C5 308,:3BF 301,:3C5 301,:3C9 301,1:3B2,:3B8,:3A5,:3A5 301,:3A5 308,:3C6,:3C0,19:3BA,:3C1+1,1:398,:3B5,A:415 300,:415 308,1:413 301,3:406 308,4:41A 301,:418 300,:423 306,A:418 306,1F:438 306,16:435 300,:435 308,1:433 301,3:456 308,4:43A 301,:438 300,:443 306,17:474 30F,:475 30F,49:416 306,:436 306,D:410 306,:430 306,:410 308,:430 308,2:415 306,:435 306,2:4D8 308,:4D9 308,:416 308,:436 308,:417 308,:437 308,2:418 304,:438 304,:418 308,:438 308,:41E 308",
  ":43E 308,2:4E8 308,:4E9 308,:42D 308,:44D 308,:423 304,:443 304,:423 308,:443 308,:423 30B,:443 30B,:427 308,:447 308,2:42B 308,:44B 308,8D:565 582,9A:627 653+1,:648 654,:627 655,:64A 654,4E:627 674,:648 674,:6C7 674,:64A 674,47:6D5 654,1:6C1 654,10:6D2 654,255:928 93C,7:930 93C,2:933 93C,23:915 93C,:916 93C,:917 93C,:91C 93C,:921 93C,:922 93C,:92B 93C,:92F 93C,6B:9C7 9BE,:9C7 9D7,F:9A1 9BC,:9A2 9BC,1:9AF 9BC,53:A32 A3C,2:A38 A3C,22:A16 A3C,:A17 A3C,:A1C A3C,2:A2B A3C,E9:B47 B56,2:B47 B3E,:B47 B57,F:B21 B3C,:B22 B3C,36:B92 BD7,35:BC6 BBE,:BC7 BBE,:BC6 BD7,7B:C46 C56,77:CBF CD5,6:CC6 CD5+1,1:CC6 CC2,:CC6 CC2 CD5,7E:D46 D3E,:D47 D3E,:D46 D57,8D:DD9 DCA,1:DD9 DCF,:DD9 DCF DCA,:DD9 DDF,54:E4D E32,7F:ECD EB2,28:EAB E99,:EAB EA1,2E:F0B,36:F42 FB7,9:F4C FB7,4:F51 FB7,4:F56 FB7,4:F5B FB7,C:F40 FB5,9:F71 F72,1:F71 F74,:FB2 F80,:FB2 F71 F80,:FB3 F80,:FB3 F71 F80,7:F71 F80,11:F92 FB7,9:F9C FB7,4:FA1 FB7,4:FA6 FB7,4:FAB FB7,C:F90 FB5,6C:1025 102E,DD9:41 325,:61 325,:42 307,:62 307,:42 323,:62 323,:42 331,:62 331,:43 327 301,:63 327 301,:44 307,:64 307,:44 323,:64 323,:44 331,:64 331,:44 327,:64 327,:44 32D,:64 32D,:45 304 300,:65 304 300,:45 304 301,:65 304 301,:45 32D,:65 32D,:45 330,:65 330,:45 327 306,:65 327 306,:46 307,:66 307,:47 304,:67 304,:48 307,:68 307,:48 323,:68 323,:48 308,:68 308,:48 327,:68 327,:48 32E,:68 32E,:49 330,:69 330,:49 308 301,:69 308 301,:4B 301,:6B 301,:4B 323,:6B 323,:4B 331,:6B 331,:4C 323,:6C 323,:4C 323 304,:6C 323 304,:4C 331,:6C 331,:4C 32D,:6C 32D",
  ":4D 301,:6D 301,:4D 307,:6D 307,:4D 323,:6D 323,:4E 307,:6E 307,:4E 323,:6E 323,:4E 331,:6E 331,:4E 32D,:6E 32D,:4F 303 301,:6F 303 301,:4F 303 308,:6F 303 308,:4F 304 300,:6F 304 300,:4F 304 301,:6F 304 301,:50 301,:70 301,:50 307,:70 307,:52 307,:72 307,:52 323,:72 323,:52 323 304,:72 323 304,:52 331,:72 331,:53 307,:73 307,:53 323,:73 323,:53 301 307,:73 301 307,:53 30C 307,:73 30C 307,:53 323 307,:73 323 307,:54 307,:74 307,:54 323,:74 323,:54 331,:74 331,:54 32D,:74 32D,:55 324,:75 324,:55 330,:75 330,:55 32D,:75 32D,:55 303 301,:75 303 301,:55 304 308,:75 304 308,:56 303,:76 303,:56 323,:76 323,:57 300,:77 300,:57 301,:77 301,:57 308,:77 308,:57 307,:77 307,:57 323,:77 323,:58 307,:78 307,:58 308,:78 308,:59 307,:79 307,:5A 302,:7A 302,:5A 323,:7A 323,:5A 331,:7A 331,:68 331,:74 308,:77 30A,:79 30A,:61 2BE,:73 307,4:41 323,:61 323,:41 309,:61 309,:41 302 301,:61 302 301,:41 302 300,:61 302 300,:41 302 309,:61 302 309,:41 302 303,:61 302 303,:41 323 302,:61 323 302,:41 306 301,:61 306 301,:41 306 300,:61 306 300,:41 306 309,:61 306 309,:41 306 303,:61 306 303,:41 323 306,:61 323 306,:45 323,:65 323,:45 309,:65 309,:45 303,:65 303,:45 302 301,:65 302 301,:45 302 300,:65 302 300,:45 302 309,:65 302 309,:45 302 303,:65 302 303,:45 323 302,:65 323 302,:49 309,:69 309,:49 323,:69 323,:4F 323,:6F 323,:4F 309,:6F 309,:4F 302 301,:6F 302 301,:4F 302 300,:6F 302 300,:4F 302 309,:6F 302 309,:4F 302 303,:6F 302 303,:4F 323 302,:6F 323 302,:4F 31B 301,:6F 31B 301,:4F 31B 300",
  ":6F 31B 300,:4F 31B 309,:6F 31B 309,:4F 31B 303,:6F 31B 303,:4F 31B 323,:6F 31B 323,:55 323,:75 323,:55 309,:75 309,:55 31B 301,:75 31B 301,:55 31B 300,:75 31B 300,:55 31B 309,:75 31B 309,:55 31B 303,:75 31B 303,:55 31B 323,:75 31B 323,:59 300,:79 300,:59 323,:79 323,:59 309,:79 309,:59 303,:79 303,6:3B1 313+1,:3B1 313 300,:3B1 314 300,:3B1 313 301,:3B1 314 301,:3B1 313 342,:3B1 314 342,:391 313+1,:391 313 300,:391 314 300,:391 313 301,:391 314 301,:391 313 342,:391 314 342,:3B5 313+1,:3B5 313 300,:3B5 314 300,:3B5 313 301,:3B5 314 301,2:395 313+1,:395 313 300,:395 314 300,:395 313 301,:395 314 301,2:3B7 313+1,:3B7 313 300,:3B7 314 300,:3B7 313 301,:3B7 314 301,:3B7 313 342,:3B7 314 342,:397 313+1,:397 313 300,:397 314 300,:397 313 301,:397 314 301,:397 313 342,:397 314 342,:3B9 313+1,:3B9 313 300,:3B9 314 300,:3B9 313 301,:3B9 314 301,:3B9 313 342,:3B9 314 342,:399 313+1,:399 313 300,:399 314 300,:399 313 301,:399 314 301,:399 313 342,:399 314 342,:3BF 313+1,:3BF 313 300,:3BF 314 300,:3BF 313 301,:3BF 314 301,2:39F 313+1,:39F 313 300,:39F 314 300,:39F 313 301,:39F 314 301,2:3C5 313+1,:3C5 313 300,:3C5 314 300,:3C5 313 301,:3C5 314 301,:3C5 313 342,:3C5 314 342,1:3A5 314,1:3A5 314 300,1:3A5 314 301,1:3A5 314 342,:3C9 313+1,:3C9 313 300,:3C9 314 300,:3C9 313 301,:3C9 314 301,:3C9 313 342,:3C9 314 342,:3A9 313+1,:3A9 313 300,:3A9 314 300,:3A9 313 301,:3A9 314 301,:3A9 313 342,:3A9 314 342,:3B1 300+1,:3B5 300+1,:3B7 300+1,:3B9 300+1,:3BF 300+1,:3C5 300+1,:3C9 300+1,2:3B1 313 345",
  ":3B1 314 345,:3B1 313 300 345,:3B1 314 300 345,:3B1 313 301 345,:3B1 314 301 345,:3B1 313 342 345,:3B1 314 342 345,:391 313 345,:391 314 345,:391 313 300 345,:391 314 300 345,:391 313 301 345,:391 314 301 345,:391 313 342 345,:391 314 342 345,:3B7 313 345,:3B7 314 345,:3B7 313 300 345,:3B7 314 300 345,:3B7 313 301 345,:3B7 314 301 345,:3B7 313 342 345,:3B7 314 342 345,:397 313 345,:397 314 345,:397 313 300 345,:397 314 300 345,:397 313 301 345,:397 314 301 345,:397 313 342 345,:397 314 342 345,:3C9 313 345,:3C9 314 345,:3C9 313 300 345,:3C9 314 300 345,:3C9 313 301 345,:3C9 314 301 345,:3C9 313 342 345,:3C9 314 342 345,:3A9 313 345,:3A9 314 345,:3A9 313 300 345,:3A9 314 300 345,:3A9 313 301 345,:3A9 314 301 345,:3A9 313 342 345,:3A9 314 342 345,:3B1 306,:3B1 304,:3B1 300 345,:3B1 345,:3B1 301 345,1:3B1 342,:3B1 342 345,:391 306,:391 304,:391 300+1,:391 345,:20 313,:3B9,:20 313,:20 342,:20 308 342,:3B7 300 345,:3B7 345,:3B7 301 345,1:3B7 342,:3B7 342 345,:395 300+1,:397 300+1,:397 345,:20 313 300+1,:20 313 342,:3B9 306,:3B9 304,:3B9 308 300+1,2:3B9 342,:3B9 308 342,:399 306,:399 304,:399 300+1,1:20 314 300+1,:20 314 342,:3C5 306,:3C5 304,:3C5 308 300+1,:3C1 313+1,:3C5 342,:3C5 308 342,:3A5 306,:3A5 304,:3A5 300+1,:3A1 314,:20 308 300+1,:60,2:3C9 300 345,:3C9 345,:3C9 301 345,1:3C9 342,:3C9 342 345,:39F 300+1,:3A9 300+1,:3A9 345,:20 301,:20 314,1:20,:20,:20,:20,:20,:20,:20,:20,:20,:20,:20,6:2010,5:20 333,C:2E,:2E 2E,:2E 2E 2E,8:20,3:2032 2032,:2032 2032 2032,1:2035 2035",
  ":2035 2035 2035,4:21 21,1:20 305,8:3F 3F,:3F 21,:21 3F,D:2032 2032 2032 2032,7:20,10:30,:69,2:34+5,:2B,:2212,:3D,:28+1,:6E,:30+9,:2B,:2212,:3D,:28+1,19:52 73,57:61 2F 63,:61 2F 73,:43,:B0 43,1:63 2F 6F,:63 2F 75,:190,1:B0 46,:67,:48,:48,:48,:68,:127,:49,:49,:4C,:6C,1:4E,:4E 6F,2:50+2,:52,:52,2:53 4D,:54 45 4C,:54 4D,1:5A,1:3A9,1:5A,1:4B,:41 30A,:42+1,1:65,:45+1,1:4D,:6F,:5D0+3,:69,3:3B3,:393,:3A0,:2211,4:44,:64+1,:69+1,9:31 2044 33,:32 2044 33,:31 2044 35,:32 2044 35,:33 2044 35,:34 2044 35,:31 2044 36,:35 2044 36,:31 2044 38,:33 2044 38,:35 2044 38,:37 2044 38,:31 2044,:49,:49 49,:49 49 49,:49 56,:56,:56 49,:56 49 49,:56 49 49 49,:49 58,:58,:58 49,:58 49 49,:4C,:43+1,:4D,:69,:69 69,:69 69 69,:69 76,:76,:76 69,:76 69 69,:76 69 69 69,:69 78,:78,:78 69,:78 69 69,:6C,:63+1,:6D,1A:2190 338,:2192 338,12:2194 338,1E:21D0 338,:21D4 338,:21D2 338,34:2203 338,4:2208 338,2:220B 338,17:2223 338,1:2225 338,5:222B 222B,:222B 222B 222B,1:222E 222E,:222E 222E 222E,10:223C 338,2:2243 338,2:2245 338,1:2248 338,16:3D 338,1:2261 338,A:224D 338,:3C 338,:3E 338,:2264 338,:2265 338,2:2272 338,:2273 338,2:2276 338,:2277 338,6:227A 338,:227B 338,2:2282 338,:2283 338,2:2286 338,:2287 338,22:22A2 338,:22A8 338,:22A9 338,:22AB 338,30:227C 338,:227D 338,:2291 338,:2292 338,6:22B2 338,:22B3 338,:22B4 338,:22B5 338,3B:3008+1,135:31+8,:31 30+9,:32 30,:28 31 29,:28 32 29,:28 33 29,:28 34 29,:28 35 29,:28 36 29,:28 37 29,:28 38 29,:28 39 29,:28 31 30 29,:28 31 31 29,:28 31 32 29,:28 31 33 29,:28 31 34 29",
  ":28 31 35 29,:28 31 36 29,:28 31 37 29,:28 31 38 29,:28 31 39 29,:28 32 30 29,:31 2E,:32 2E,:33 2E,:34 2E,:35 2E,:36 2E,:37 2E,:38 2E,:39 2E,:31 30 2E,:31 31 2E,:31 32 2E,:31 33 2E,:31 34 2E,:31 35 2E,:31 36 2E,:31 37 2E,:31 38 2E,:31 39 2E,:32 30 2E,:28 61 29,:28 62 29,:28 63 29,:28 64 29,:28 65 29,:28 66 29,:28 67 29,:28 68 29,:28 69 29,:28 6A 29,:28 6B 29,:28 6C 29,:28 6D 29,:28 6E 29,:28 6F 29,:28 70 29,:28 71 29,:28 72 29,:28 73 29,:28 74 29,:28 75 29,:28 76 29,:28 77 29,:28 78 29,:28 79 29,:28 7A 29,:41+19,:61+19,:30,521:222B 222B 222B 222B,67:3A 3A 3D,:3D 3D,:3D 3D 3D,65:2ADD 338,3C2:6BCD,53:9F9F,C:4E00,:4E28,:4E36,:4E3F,:4E59,:4E85,:4E8C,:4EA0,:4EBA,:513F,:5165,:516B,:5182,:5196,:51AB,:51E0,:51F5,:5200,:529B,:52F9,:5315,:531A,:5338,:5341,:535C,:5369,:5382,:53B6,:53C8,:53E3,:56D7,:571F,:58EB,:5902,:590A,:5915,:5927,:5973,:5B50,:5B80,:5BF8,:5C0F,:5C22,:5C38,:5C6E,:5C71,:5DDB,:5DE5,:5DF1,:5DFE,:5E72,:5E7A,:5E7F,:5EF4,:5EFE,:5F0B,:5F13,:5F50,:5F61,:5F73,:5FC3,:6208,:6236,:624B,:652F,:6534,:6587,:6597,:65A4,:65B9,:65E0,:65E5,:66F0,:6708,:6728,:6B20,:6B62,:6B79,:6BB3,:6BCB,:6BD4,:6BDB,:6C0F,:6C14,:6C34,:706B,:722A,:7236,:723B,:723F,:7247,:7259,:725B,:72AC,:7384,:7389,:74DC,:74E6,:7518,:751F,:7528,:7530,:758B,:7592,:7676,:767D,:76AE,:76BF,:76EE,:77DB,:77E2,:77F3,:793A,:79B8,:79BE,:7A74,:7ACB,:7AF9,:7C73,:7CF8,:7F36,:7F51,:7F8A,:7FBD,:8001,:800C,:8012,:8033,:807F,:8089,:81E3,:81EA,:81F3,:81FC,:820C,:821B,:821F,:826E,:8272,:8278,:864D,:866B,:8840,:884C,:8863,:897E,:898B,:89D2",
  ":8A00,:8C37,:8C46,:8C55,:8C78,:8C9D,:8D64,:8D70,:8DB3,:8EAB,:8ECA,:8F9B,:8FB0,:8FB5,:9091,:9149,:91C6,:91CC,:91D1,:9577,:9580,:961C,:96B6,:96B9,:96E8,:9751,:975E,:9762,:9769,:97CB,:97ED,:97F3,:9801,:98A8,:98DB,:98DF,:9996,:9999,:99AC,:9AA8,:9AD8,:9ADF,:9B25,:9B2F,:9B32,:9B3C,:9B5A,:9CE5,:9E75,:9E7F,:9EA5,:9EBB,:9EC3,:9ECD,:9ED1,:9EF9,:9EFD,:9F0E,:9F13,:9F20,:9F3B,:9F4A,:9F52,:9F8D,:9F9C,:9FA0,2A:20,35:3012,1:5341,:5344+1,11:304B 3099,1:304D 3099,1:304F 3099,1:3051 3099,1:3053 3099,1:3055 3099,1:3057 3099,1:3059 3099,1:305B 3099,1:305D 3099,1:305F 3099,1:3061 3099,2:3064 3099,1:3066 3099,1:3068 3099,6:306F 3099+1,1:3072 3099+1,1:3075 3099+1,1:3078 3099+1,1:307B 3099+1,16:3046 3099,6:20 3099+1,1:309D 3099,:3088 308A,C:30AB 3099,1:30AD 3099,1:30AF 3099,1:30B1 3099,1:30B3 3099,1:30B5 3099,1:30B7 3099,1:30B9 3099,1:30BB 3099,1:30BD 3099,1:30BF 3099,1:30C1 3099,2:30C4 3099,1:30C6 3099,1:30C8 3099,6:30CF 3099+1,1:30D2 3099+1,1:30D5 3099+1,1:30D8 3099+1,1:30DB 3099+1,16:30A6 3099,2:30EF 3099,:30F0 3099,:30F1 3099,:30F2 3099,3:30FD 3099,:30B3 30C8,31:1100+1,:11AA,:1102,:11AC+1,:1103+2,:11B0+5,:111A,:1106+2,:1121,:1109+9,:1161+14,:1160,:1114+1,:11C7+1,:11CC,:11CE,:11D3,:11D7,:11D9,:111C,:11DD,:11DF,:111D+1,:1120,:1122+1,:1127,:1129,:112B+4,:1132,:1136,:1140,:1147,:114C,:11F1+1,:1157+2,:1184+1,:1188,:1191+1,:1194,:119E,:11A1,3:4E00,:4E8C,:4E09,:56DB,:4E0A,:4E2D,:4E0B,:7532,:4E59,:4E19,:4E01,:5929,:5730,:4EBA,60:28 1100 29,:28 1102 29,:28 1103 29,:28 1105 29,:28 1106 29,:28 1107 29",
  ":28 1109 29,:28 110B 29,:28 110C 29,:28 110E 29,:28 110F 29,:28 1110 29,:28 1111 29,:28 1112 29,:28 1100 1161 29,:28 1102 1161 29,:28 1103 1161 29,:28 1105 1161 29,:28 1106 1161 29,:28 1107 1161 29,:28 1109 1161 29,:28 110B 1161 29,:28 110C 1161 29,:28 110E 1161 29,:28 110F 1161 29,:28 1110 1161 29,:28 1111 1161 29,:28 1112 1161 29,:28 110C 116E 29,3:28 4E00 29,:28 4E8C 29,:28 4E09 29,:28 56DB 29,:28 4E94 29,:28 516D 29,:28 4E03 29,:28 516B 29,:28 4E5D 29,:28 5341 29,:28 6708 29,:28 706B 29,:28 6C34 29,:28 6728 29,:28 91D1 29,:28 571F 29,:28 65E5 29,:28 682A 29,:28 6709 29,:28 793E 29,:28 540D 29,:28 7279 29,:28 8CA1 29,:28 795D 29,:28 52B4 29,:28 4EE3 29,:28 547C 29,:28 5B66 29,:28 76E3 29,:28 4F01 29,:28 8CC7 29,:28 5354 29,:28 796D 29,:28 4F11 29,:28 81EA 29,:28 81F3 29,D:32 31+8,:33 30+5,:1100,:1102+1,:1105+2,:1109,:110B+1,:110E+4,:1100 1161,:1102 1161,:1103 1161,:1105 1161,:1106 1161,:1107 1161,:1109 1161,:110B 1161,:110C 1161,:110E 1161,:110F 1161,:1110 1161,:1111 1161,:1112 1161,4:4E00,:4E8C,:4E09,:56DB,:4E94,:516D,:4E03,:516B,:4E5D,:5341,:6708,:706B,:6C34,:6728,:91D1,:571F,:65E5,:682A,:6709,:793E,:540D,:7279,:8CA1,:795D,:52B4,:79D8,:7537,:5973,:9069,:512A,:5370,:6CE8,:9805,:4F11,:5199,:6B63,:4E0A,:4E2D,:4E0B,:5DE6,:53F3,:533B,:5B97,:5B66,:76E3,:4F01,:8CC7,:5354,:591C,:33 36+3,:34 30+9,:35 30,:31 6708,:32 6708,:33 6708,:34 6708,:35 6708,:36 6708,:37 6708,:38 6708,:39 6708,:31 30 6708,:31 31 6708,:31 32 6708,4:30A2,:30A4,:30A6,:30A8,:30AA+1,:30AD,:30AF,:30B1,:30B3,:30B5",
  ":30B7,:30B9,:30BB,:30BD,:30BF,:30C1,:30C4,:30C6,:30C8,:30CA+5,:30D2,:30D5,:30D8,:30DB,:30DE+4,:30E4,:30E6,:30E8+5,:30EF+3,1:30A2 30CF 309A 30FC 30C8,:30A2 30EB 30D5 30A1,:30A2 30F3 30D8 309A 30A2,:30A2 30FC 30EB,:30A4 30CB 30F3 30AF 3099,:30A4 30F3 30C1,:30A6 30A9 30F3,:30A8 30B9 30AF 30FC 30C8 3099,:30A8 30FC 30AB 30FC,:30AA 30F3 30B9,:30AA 30FC 30E0,:30AB 30A4 30EA,:30AB 30E9 30C3 30C8,:30AB 30ED 30EA 30FC,:30AB 3099 30ED 30F3,:30AB 3099 30F3 30DE,:30AD 3099 30AB 3099,:30AD 3099 30CB 30FC,:30AD 30E5 30EA 30FC,:30AD 3099 30EB 30BF 3099 30FC,:30AD 30ED,:30AD 30ED 30AF 3099 30E9 30E0,:30AD 30ED 30E1 30FC 30C8 30EB,:30AD 30ED 30EF 30C3 30C8,:30AF 3099 30E9 30E0,:30AF 3099 30E9 30E0 30C8 30F3,:30AF 30EB 30BB 3099 30A4 30ED,:30AF 30ED 30FC 30CD,:30B1 30FC 30B9,:30B3 30EB 30CA,:30B3 30FC 30DB 309A,:30B5 30A4 30AF 30EB,:30B5 30F3 30C1 30FC 30E0,:30B7 30EA 30F3 30AF 3099,:30BB 30F3 30C1,:30BB 30F3 30C8,:30BF 3099 30FC 30B9,:30C6 3099 30B7,:30C8 3099 30EB,:30C8 30F3,:30CA 30CE,:30CE 30C3 30C8,:30CF 30A4 30C4,:30CF 309A 30FC 30BB 30F3 30C8,:30CF 309A 30FC 30C4,:30CF 3099 30FC 30EC 30EB,:30D2 309A 30A2 30B9 30C8 30EB,:30D2 309A 30AF 30EB,:30D2 309A 30B3,:30D2 3099 30EB,:30D5 30A1 30E9 30C3 30C8 3099,:30D5 30A3 30FC 30C8,:30D5 3099 30C3 30B7 30A7 30EB,:30D5 30E9 30F3,:30D8 30AF 30BF 30FC 30EB,:30D8 309A 30BD,:30D8 309A 30CB 30D2,:30D8 30EB 30C4,:30D8 309A 30F3 30B9,:30D8 309A 30FC 30B7 3099,:30D8 3099 30FC 30BF,:30DB 309A 30A4 30F3 30C8,:30DB 3099 30EB 30C8,:30DB 30F3",
  ":30DB 309A 30F3 30C8 3099,:30DB 30FC 30EB,:30DB 30FC 30F3,:30DE 30A4 30AF 30ED,:30DE 30A4 30EB,:30DE 30C3 30CF,:30DE 30EB 30AF,:30DE 30F3 30B7 30E7 30F3,:30DF 30AF 30ED 30F3,:30DF 30EA,:30DF 30EA 30CF 3099 30FC 30EB,:30E1 30AB 3099,:30E1 30AB 3099 30C8 30F3,:30E1 30FC 30C8 30EB,:30E4 30FC 30C8 3099,:30E4 30FC 30EB,:30E6 30A2 30F3,:30EA 30C3 30C8 30EB,:30EA 30E9,:30EB 30D2 309A 30FC,:30EB 30FC 30D5 3099 30EB,:30EC 30E0,:30EC 30F3 30C8 30B1 3099 30F3,:30EF 30C3 30C8,:30 70B9,:31 70B9,:32 70B9,:33 70B9,:34 70B9,:35 70B9,:36 70B9,:37 70B9,:38 70B9,:39 70B9,:31 30 70B9,:31 31 70B9,:31 32 70B9,:31 33 70B9,:31 34 70B9,:31 35 70B9,:31 36 70B9,:31 37 70B9,:31 38 70B9,:31 39 70B9,:32 30 70B9,:32 31 70B9,:32 32 70B9,:32 33 70B9,:32 34 70B9,:68 50 61,:64 61,:41 55,:62 61 72,:6F 56,:70 63,4:5E73 6210,:662D 548C,:5927 6B63,:660E 6CBB,:682A 5F0F 4F1A 793E,:70 41,:6E 41,:3BC 41,:6D 41,:6B 41,:4B 42,:4D 42,:47 42,:63 61 6C,:6B 63 61 6C,:70 46,:6E 46,:3BC 46,:3BC 67,:6D 67,:6B 67,:48 7A,:6B 48 7A,:4D 48 7A,:47 48 7A,:54 48 7A,:3BC 6C,:6D 6C,:64 6C,:6B 6C,:66 6D,:6E 6D,:3BC 6D,:6D 6D,:63 6D,:6B 6D,:6D 6D 32,:63 6D 32,:6D 32,:6B 6D 32,:6D 6D 33,:63 6D 33,:6D 33,:6B 6D 33,:6D 2215 73,:6D 2215 73 32,:50 61,:6B 50 61,:4D 50 61,:47 50 61,:72 61 64,:72 61 64 2215 73,:72 61 64 2215 73 32,:70 73,:6E 73,:3BC 73,:6D 73,:70 56,:6E 56,:3BC 56,:6D 56,:6B 56,:4D 56,:70 57,:6E 57,:3BC 57,:6D 57,:6B 57,:4D 57,:6B 3A9,:4D 3A9,:61 2E 6D 2E,:42 71,:63 63+1,:43 2215 6B 67,:43 6F 2E,:64 42,:47 79,:68 61,:48 50",
  ":69 6E,:4B 4B,:4B 4D,:6B 74,:6C 6D+1,:6C 6F 67,:6C 78,:6D 62,:6D 69 6C,:6D 6F 6C,:50 48,:70 2E 6D 2E,:50 50 4D,:50 52,:73 72,:53 76,:57 62,2:31 65E5,:32 65E5,:33 65E5,:34 65E5,:35 65E5,:36 65E5,:37 65E5,:38 65E5,:39 65E5,:31 30 65E5,:31 31 65E5,:31 32 65E5,:31 33 65E5,:31 34 65E5,:31 35 65E5,:31 36 65E5,:31 37 65E5,:31 38 65E5,:31 39 65E5,:32 30 65E5,:32 31 65E5,:32 32 65E5,:32 33 65E5,:32 34 65E5,:32 35 65E5,:32 36 65E5,:32 37 65E5,:32 38 65E5,:32 39 65E5,:33 30 65E5,:33 31 65E5,C501:8C48,:66F4,:8ECA,:8CC8,:6ED1,:4E32,:53E5,:9F9C,:9F9C,:5951,:91D1,:5587,:5948,:61F6,:7669,:7F85,:863F,:87BA,:88F8,:908F,:6A02,:6D1B,:70D9,:73DE,:843D,:916A,:99F1,:4E82,:5375,:6B04,:721B,:862D,:9E1E,:5D50,:6FEB,:85CD,:8964,:62C9,:81D8,:881F,:5ECA,:6717,:6D6A,:72FC,:90CE,:4F86,:51B7,:52DE,:64C4,:6AD3,:7210,:76E7,:8001,:8606,:865C,:8DEF,:9732,:9B6F,:9DFA,:788C,:797F,:7DA0,:83C9,:9304,:9E7F,:8AD6,:58DF,:5F04,:7C60,:807E,:7262,:78CA,:8CC2,:96F7,:58D8,:5C62,:6A13,:6DDA,:6F0F,:7D2F,:7E37,:964B,:52D2,:808B,:51DC,:51CC,:7A1C,:7DBE,:83F1,:9675,:8B80,:62CF,:6A02,:8AFE,:4E39,:5BE7,:6012,:7387,:7570,:5317,:78FB,:4FBF,:5FA9,:4E0D,:6CCC,:6578,:7D22,:53C3,:585E,:7701,:8449,:8AAA,:6BBA,:8FB0,:6C88,:62FE,:82E5,:63A0,:7565,:4EAE,:5169,:51C9,:6881,:7CE7,:826F,:8AD2,:91CF,:52F5,:5442,:5973,:5EEC,:65C5,:6FFE,:792A,:95AD,:9A6A,:9E97,:9ECE,:529B,:66C6,:6B77,:8F62,:5E74,:6190,:6200,:649A,:6F23,:7149,:7489,:79CA,:7DF4,:806F,:8F26,:84EE,:9023,:934A,:5217,:52A3,:54BD,:70C8,:88C2,:8AAA,:5EC9,:5FF5,:637B,:6BAE,:7C3E,:7375",
  ":4EE4,:56F9,:5BE7,:5DBA,:601C,:73B2,:7469,:7F9A,:8046,:9234,:96F6,:9748,:9818,:4F8B,:79AE,:91B4,:96B8,:60E1,:4E86,:50DA,:5BEE,:5C3F,:6599,:6A02,:71CE,:7642,:84FC,:907C,:9F8D,:6688,:962E,:5289,:677B,:67F3,:6D41,:6E9C,:7409,:7559,:786B,:7D10,:985E,:516D,:622E,:9678,:502B,:5D19,:6DEA,:8F2A,:5F8B,:6144,:6817,:7387,:9686,:5229,:540F,:5C65,:6613,:674E,:68A8,:6CE5,:7406,:75E2,:7F79,:88CF,:88E1,:91CC,:96E2,:533F,:6EBA,:541D,:71D0,:7498,:85FA,:96A3,:9C57,:9E9F,:6797,:6DCB,:81E8,:7ACB,:7B20,:7C92,:72C0,:7099,:8B58,:4EC0,:8336,:523A,:5207,:5EA6,:62D3,:7CD6,:5B85,:6D1E,:66B4,:8F3B,:884C,:964D,:898B,:5ED3,:5140,:55C0,2:585A,1:6674,2:51DE,:732A,:76CA,:793C,:795E,:7965,:798F,:9756,:7CBE,:7FBD,1:8612,1:8AF8,2:9038,:90FD,3:98EF,:98FC,:9928,:9DB4,2:4FAE,:50E7,:514D,:52C9,:52E4,:5351,:559D,:5606,:5668,:5840,:58A8,:5C64,:5C6E,:6094,:6168,:618E,:61F2,:654F,:65E2,:6691,:6885,:6D77,:6E1A,:6F22,:716E,:722B,:7422,:7891,:793E,:7949,:7948,:7950,:7956,:795D,:798D+1,:7A40,:7A81,:7BC0,:7DF4,:7E09,:7E41,:7F72,:8005,:81ED,:8279,:8279,:8457,:8910,:8996,:8B01,:8B39,:8CD3,:8D08,:8FB6,:9038,:96E3,:97FF,:983B,95:66 66,:66 69,:66 6C,:66 66 69,:66 66 6C,:73 74,:73 74,C:574 576,:574 565,:574 56B,:57E 576,:574 56D,5:5D9 5B4,1:5F2 5B7,:5E2,:5D0,:5D3+1,:5DB+2,:5E8,:5EA,:2B,:5E9 5C1+1,:5E9 5BC 5C1+1,:5D0 5B7+1,:5D0 5BC,:5D1 5BC,:5D2 5BC,:5D3 5BC,:5D4 5BC,:5D5 5BC,:5D6 5BC,1:5D8 5BC,:5D9 5BC,:5DA 5BC,:5DB 5BC,:5DC 5BC,1:5DE 5BC,1:5E0 5BC,:5E1 5BC,1:5E3 5BC,:5E4 5BC,1:5E6 5BC,:5E7 5BC,:5E8 5BC,:5E9 5BC,:5EA 5BC,:5D5 5B9",
  ":5D1 5BF,:5DB 5BF,:5E4 5BF,:5D0 5DC,:671,:671,:67B,:67B,:67B,:67B,:67E,:67E,:67E,:67E,:680,:680,:680,:680,:67A,:67A,:67A,:67A,:67F,:67F,:67F,:67F,:679,:679,:679,:679,:6A4,:6A4,:6A4,:6A4,:6A6,:6A6,:6A6,:6A6,:684,:684,:684,:684,:683,:683,:683,:683,:686,:686,:686,:686+1,:687,:687,:687,:68D,:68D,:68C,:68C,:68E,:68E,:688,:688,:698,:698,:691,:691,:6A9,:6A9,:6A9,:6A9,:6AF,:6AF,:6AF,:6AF,:6B3,:6B3,:6B3,:6B3,:6B1,:6B1,:6B1,:6B1,:6BA,:6BA+1,:6BB,:6BB,:6BB,:6D5 654,:6D5 654,:6C1,:6C1,:6C1,:6C1,:6BE,:6BE,:6BE,:6BE,:6D2,:6D2,:6D2 654,:6D2 654,21:6AD,:6AD,:6AD,:6AD,:6C7,:6C7,:6C6,:6C6,:6C8,:6C8,:6C7 674,:6CB,:6CB,:6C5,:6C5,:6C9,:6C9,:6D0,:6D0,:6D0,:6D0,:649,:649,:64A 654 627,:64A 654 627,:64A 654 6D5,:64A 654 6D5,:64A 654 648,:64A 654 648,:64A 654 6C7,:64A 654 6C7,:64A 654 6C6,:64A 654 6C6,:64A 654 6C8,:64A 654 6C8,:64A 654 6D0,:64A 654 6D0,:64A 654 6D0,:64A 654 649,:64A 654 649,:64A 654 649,:6CC,:6CC,:6CC,:6CC,:64A 654 62C+1,:64A 654 645,:64A 654 649+1,:628 62C+2,:628 645,:628 649+1,:62A 62C+2,:62A 645,:62A 649+1,:62B 62C,:62B 645,:62B 649+1,:62C 62D,:62C 645,:62D 62C,:62D 645,:62E 62C+1,:62E 645,:633 62C+2,:633 645,:635 62D,:635 645,:636 62C+2,:636 645,:637 62D,:637 645,:638 645,:639 62C,:639 645,:63A 62C,:63A 645,:641 62C+2,:641 645,:641 649+1,:642 62D,:642 645,:642 649+1,:643 627,:643 62C+2,:643 644+1,:643 649+1,:644 62C+2,:644 645,:644 649+1,:645 62C+2,:645 645,:645 649+1,:646 62C+2,:646 645,:646 649+1,:647 62C,:647 645,:647 649+1,:64A 62C+2,:64A 645,:64A 649+1,:630 670,:631 670",
  ":649 670,:20 64C 651,:20 64D 651,:20 64E 651,:20 64F 651,:20 650 651,:20 651 670,:64A 654 631+1,:64A 654 645+1,:64A 654 649+1,:628 631+1,:628 645+1,:628 649+1,:62A 631+1,:62A 645+1,:62A 649+1,:62B 631+1,:62B 645+1,:62B 649+1,:641 649+1,:642 649+1,:643 627,:643 644+1,:643 649+1,:644 645,:644 649+1,:645 627,:645 645,:646 631+1,:646 645+1,:646 649+1,:649 670,:64A 631+1,:64A 645+1,:64A 649+1,:64A 654 62C+2,:64A 654 645,:64A 654 647,:628 62C+2,:628 645,:628 647,:62A 62C+2,:62A 645,:62A 647,:62B 645,:62C 62D,:62C 645,:62D 62C,:62D 645,:62E 62C,:62E 645,:633 62C+2,:633 645,:635 62D+1,:635 645,:636 62C+2,:636 645,:637 62D,:638 645,:639 62C,:639 645,:63A 62C,:63A 645,:641 62C+2,:641 645,:642 62D,:642 645,:643 62C+2,:643 644+1,:644 62C+2,:644 645,:644 647,:645 62C+2,:645 645,:646 62C+2,:646 645,:646 647,:647 62C,:647 645,:647 670,:64A 62C+2,:64A 645,:64A 647,:64A 654 645,:64A 654 647,:628 645,:628 647,:62A 645,:62A 647,:62B 645,:62B 647,:633 645,:633 647,:634 645,:634 647,:643 644+1,:644 645,:646 645,:646 647,:64A 645,:64A 647,:640 64E 651,:640 64F 651,:640 650 651,:637 649+1,:639 649+1,:63A 649+1,:633 649+1,:634 649+1,:62D 649+1,:62C 649+1,:62E 649+1,:635 649+1,:636 649+1,:634 62C+2,:634 645,:634 631,:633 631,:635 631,:636 631,:637 649+1,:639 649+1,:63A 649+1,:633 649+1,:634 649+1,:62D 649+1,:62C 649+1,:62E 649+1,:635 649+1,:636 649+1,:634 62C+2,:634 645,:634 631,:633 631,:635 631,:636 631,:634 62C+2,:634 645,:633 647,:634 647,:637 645,:633 62C+2,:634 62C+2,:637 645,:638 645,:627 64B",
  ":627 64B,12:62A 62C 645,:62A 62D 62C,:62A 62D 62C,:62A 62D 645,:62A 62E 645,:62A 645 62C+2,:62C 645 62D,:62C 645 62D,:62D 645 64A,:62D 645 649,:633 62D 62C,:633 62C 62D,:633 62C 649,:633 645 62D,:633 645 62D,:633 645 62C,:633 645 645,:633 645 645,:635 62D 62D,:635 62D 62D,:635 645 645,:634 62D 645,:634 62D 645,:634 62C 64A,:634 645 62E,:634 645 62E,:634 645 645,:634 645 645,:636 62D 649,:636 62E 645,:636 62E 645,:637 645 62D,:637 645 62D,:637 645 645,:637 645 64A,:639 62C 645,:639 645 645,:639 645 645,:639 645 649,:63A 645 645,:63A 645 64A,:63A 645 649,:641 62E 645,:641 62E 645,:642 645 62D,:642 645 645,:644 62D 645,:644 62D 64A,:644 62D 649,:644 62C 62C,:644 62C 62C,:644 62E 645,:644 62E 645,:644 645 62D,:644 645 62D,:645 62D 62C,:645 62D 645,:645 62D 64A,:645 62C 62D,:645 62C 645,:645 62E 62C,:645 62E 645,2:645 62C 62E,:647 645 62C,:647 645 645,:646 62D 645,:646 62D 649,:646 62C 645,:646 62C 645,:646 62C 649,:646 645 64A,:646 645 649,:64A 645 645,:64A 645 645,:628 62E 64A,:62A 62C 64A,:62A 62C 649,:62A 62E 64A,:62A 62E 649,:62A 645 64A,:62A 645 649,:62C 645 64A,:62C 62D 649,:62C 645 649,:633 62E 649,:635 62D 64A,:634 62D 64A,:636 62D 64A,:644 62C 64A,:644 645 64A,:64A 62D 64A,:64A 62C 64A,:64A 645 64A,:645 645 64A,:642 645 64A,:646 62D 64A,:642 645 62D,:644 62D 645,:639 645 64A,:643 645 64A,:646 62C 62D,:645 62E 64A,:644 62C 645,:643 645 645,:644 62C 645,:646 62C 62D,:62C 62D 64A,:62D 62C 64A,:645 62C 64A,:641 645 64A,:628 62D 64A,:643 645 645,:639 62C 645,:635 645 645",
  ":633 62E 64A,:646 62C 64A,28:635 644 6D2,:642 644 6D2,:627 644 644 647,:627 643 628 631,:645 62D 645 62F,:635 644 639 645,:631 633 648 644,:639 644 64A 647,:648 633 644 645,:635 644 649,:635 644 649 20 627 644 644 647 20 639 644 64A 647 20 648 633 644 645,:62C 644 20 62C 644 627 644 647,:631 6CC 627 644,33:2E 2E,:2014,:2013,:5F,:5F,:28+1,:7B,:7D,:3014+1,:3010+1,:300A+1,:3008+1,:300C+3,4:20 305,:20 305,:20 305,:20 305,:5F,:5F,:5F,:2C,:3001,:2E,1:3B,:3A,:3F,:21,:2014,:28+1,:7B,:7D,:3014+1,:23,:26,:2A+1,:2D,:3C,:3E,:3D,1:5C,:24+1,:40,4:20 64B,:640 64B,:20 64C,1:20 64D,1:20 64E,:640 64E,:20 64F,:640 64F,:20 650,:640 650,:20 651,:640 651,:20 652,:640 652,:621,:627 653,:627 653+1,:627 654,:648 654,:648 654,:627 655,:627 655,:64A 654,:64A 654,:64A 654,:64A 654,:627,:627+1,:628,:628,:628+1,:629+1,:62A,:62A,:62A+1,:62B,:62B,:62B+1,:62C,:62C,:62C+1,:62D,:62D,:62D+1,:62E,:62E,:62E+1,:62F+1,:630+1,:631+1,:632+1,:633,:633,:633+1,:634,:634,:634+1,:635,:635,:635+1,:636,:636,:636+1,:637,:637,:637+1,:638,:638,:638+1,:639,:639,:639+1,:63A,:63A,:63A,:641,:641,:641,:641+1,:642,:642,:642+1,:643,:643,:643+1,:644,:644,:644+1,:645,:645,:645+1,:646,:646,:646+1,:647,:647,:647+1,:648+1,:649+1,:64A,:64A,:64A,:644 627 653,:644 627 653+1,:644 627 654+1,:644 627 655,:644 627,:644 627,4:21+5D,:2985+1,:3002,:300C+1,:3001,:30FB,:30F2,:30A1,:30A3,:30A5,:30A7,:30A9,:30E3,:30E5,:30E7,:30C3,:30FC,:30A2,:30A4,:30A6,:30A8,:30AA+1,:30AD,:30AF,:30B1,:30B3,:30B5,:30B7,:30B9,:30BB,:30BD,:30BF,:30C1,:30C4,:30C6,:30C8",
  ":30CA+5,:30D2,:30D5,:30D8,:30DB,:30DE+4,:30E4,:30E6,:30E8+5,:30EF,:30F3,:3099+1,:1160,:1100+1,:11AA,:1102,:11AC+1,:1103+2,:11B0+5,:111A,:1106+2,:1121,:1109+9,3:1161+5,2:1167+5,2:116D+5,2:1173+2,3:A2+1,:AC,:20 304,:A6,:A5,:20A9,1:2502,:2190+3,:25A0,:25CB,D16F:1D157 1D165,:1D158 1D165,:1D158 1D165 1D16E+4,56:1D1B9 1D165,:1D1BA 1D165,:1D1B9 1D165 1D16E,:1D1BA 1D165 1D16E,:1D1B9 1D165 1D16F,:1D1BA 1D165 1D16F,23F:41+19,:61+19,:41+19,:61+6,1:69+11,:41+19,:61+19,:41,1:43+1,2:47,2:4A+1,2:4E+3,1:53+7,:61+3,1:66,1:68+3,1:6D+1,1:70+A,:41+19,:61+19,:41+1,1:44+3,2:4A+7,1:53+6,1:61+19,:41+1,1:44+3,1:49+4,1:4F,3:53+6,1:61+19,:41+19,:61+19,:41+19,:61+19,:41+19,:61+19,:41+19,:61+19,:41+19,:61+19,:41+19,:61+19,4:391+10,:398,:3A3+6,:2207,:3B1+18,:2202,:3B5,:3B8,:3BA,:3C6,:3C1,:3C0,:391+10,:398,:3A3+6,:2207,:3B1+18,:2202,:3B5,:3B8,:3BA,:3C6,:3C1,:3C0,:391+10,:398,:3A3+6,:2207,:3B1+18,:2202,:3B5,:3B8,:3BA,:3C6,:3C1,:3C0,:391+10,:398,:3A3+6,:2207,:3B1+18,:2202,:3B5,:3B8,:3BA,:3C6,:3C1,:3C0,:391+10,:398,:3A3+6,:2207,:3B1+18,:2202,:3B5,:3B8,:3BA,:3C6,:3C1,:3C0,4:30+9,:30+9,:30+9,:30+9,:30+9,12000:4E3D,:4E38,:4E41,:20122,:4F60,:4FAE,:4FBB,:5002,:507A,:5099,:50E7,:50CF,:349E,:2063A,:514D,:5154,:5164,:5177,:2051C,:34B9,:5167,:518D,:2054B,:5197,:51A4,:4ECC,:51AC,:51B5,:291DF,:51F5,:5203,:34DF,:523B,:5246,:5272,:5277,:3515,:52C7,:52C9,:52E4,:52FA,:5305+1,:5317,:5349,:5351,:535A,:5373,:537D,:537F,:537F,:537F,:20A2C,:7070,:53CA,:53DF,:20B63,:53EB,:53F1,:5406,:549E,:5438,:5448,:5468,:54A2,:54F6,:5510,:5553",
  ":5563,:5584,:5584,:5599,:55AB,:55B3,:55C2,:5716,:5606,:5717,:5651,:5674,:5207,:58EE,:57CE,:57F4,:580D,:578B,:5832,:5831,:58AC,:214E4,:58F2,:58F7,:5906,:591A,:5922,:5962,:216A8,:216EA,:59EC,:5A1B,:5A27,:59D8,:5A66,:36EE,:2136A,:5B08,:5B3E,:5B3E,:219C8,:5BC3,:5BD8,:5BE7,:5BF3,:21B18,:5BFF,:5C06,:5F33,:5C22,:3781,:5C60,:5C6E,:5CC0,:5C8D,:21DE4,:5D43,:21DE6,:5D6E,:5D6B,:5D7C,:5DE1+1,:382F,:5DFD,:5E28,:5E3D,:5E69,:3862,:22183,:387C,:5EB0,:5EB3,:5EB6,:5ECA,:2A392,:5EFE,:22331,:22331,:8201,:5F22,:5F22,:38C7,:232B8,:261DA,:5F62,:5F6B,:38E3,:5F9A,:5FCD,:5FD7,:5FF9,:6081,:393A,:391C,:6094,:226D4,:60C7,:6148,:614C,:614E,:614C,:617A,:618E,:61B2,:61A4,:61AF,:61DE,:61F2,:61F6,:6210,:621B,:625D,:62B1,:62D4,:6350,:22B0C,:633D,:62FC,:6368,:6383,:63E4,:22BF1,:6422,:63C5,:63A9,:3A2E,:6469,:647E,:649D,:6477,:3A6C,:654F,:656C,:2300A,:65E3,:66F8,:6649,:3B19,:6691,:3B08,:3AE4,:5192,:5195,:6700,:669C,:80AD,:43D9,:6717,:671B,:6721,:675E,:6753,:233C3,:3B49,:67FA,:6785,:6852,:6885,:2346D,:688E,:681F,:6914,:3B9D,:6942,:69A3,:69EA,:6AA8,:236A3,:6ADB,:3C18,:6B21,:238A7,:6B54,:3C4E,:6B72,:6B9F,:6BBA+1,:23A8D,:21D0B,:23AFA,:6C4E,:23CBC,:6CBF,:6CCD,:6C67,:6D16,:6D3E,:6D77,:6D41,:6D69,:6D78,:6D85,:23D1E,:6D34,:6E2F,:6E6E,:3D33,:6ECB,:6EC7,:23ED1,:6DF9,:6F6E,:23F5E,:23F8E,:6FC6,:7039,:701E,:701B,:3D96,:704A,:707D,:7077,:70AD,:20525,:7145,:24263,:719C,:43AB,:7228,:7235,:7250,:24608,:7280,:7295,:24735,:24814,:737A,:738B,:3EAC,:73A5,:3EB8,:3EB8,:7447,:745C,:7471,:7485,:74CA,:3F1B,:7524,:24C36,:753E,:24C92,:7570",
  ":2219F,:7610,:24FA1,:24FB8,:25044,:3FFC,:4008,:76F4,:250F3,:250F2,:25119,:25133,:771E+1,:771F,:774A,:4039,:778B,:4046,:4096,:2541D,:784E,:788C,:78CC,:40E3,:25626,:7956,:2569A,:256C5,:798F,:79EB,:412F,:7A40,:7A4A,:7A4F,:2597C,:25AA7,:25AA7,:7AAE,:4202,:25BAB,:7BC6,:7BC9,:4227,:25C80,:7CD2,:42A0,:7CE8,:7CE3,:7D00,:25F86,:7D63,:4301,:7DC7,:7E02,:7E45,:4334,:26228,:26247,:4359,:262D9,:7F7A,:2633E,:7F95,:7FFA,:8005,:264DA,:26523,:8060,:265A8,:8070,:2335F,:43D5,:80B2,:8103,:440B,:813E,:5AB5,:267A7,:267B5,:23393,:2339C,:8201,:8204,:8F9E,:446B,:8291,:828B,:829D,:52B3,:82B1,:82B3,:82BD,:82E6,:26B3C,:82E5,:831D,:8363,:83AD,:8323,:83BD,:83E7,:8457,:8353,:83CA,:83CC,:83DC,:26C36,:26D6B,:26CD5,:452B,:84F1,:84F3,:8516,:273CA,:8564,:26F2C,:455D,:4561,:26FB1,:270D2,:456B,:8650,:865C,:8667,:8669,:86A9,:8688,:870E,:86E2,:8779,:8728,:876B,:8786,:4D57,:87E1,:8801,:45F9,:8860,:8863,:27667,:88D7,:88DE,:4635,:88FA,:34BB,:278AE,:27966,:46BE,:46C7,:8AA0,:8AED,:8B8A,:8C55,:27CA8,:8CAB,:8CC1,:8D1B,:8D77,:27F2F,:20804,:8DCB,:8DBC,:8DF0,:208DE,:8ED4,:8F38,:285D2,:285ED,:9094,:90F1,:9111,:2872E,:911B,:9238,:92D7+1,:927C,:93F9,:9415,:28BFA,:958B,:4995,:95B7,:28D77,:49E6,:96C3,:5DB2,:9723,:29145,:2921A,:4A6E,:4A76,:97E0,:2940A,:4AB2,:29496,:980B,:980B,:9829,:295B6,:98E2,:4B33,:9929,:99A7,:99C2,:99FE,:4BCE,:29B30,:9B12,:9C40,:9CFD,:4CCE,:4CED,:9D67,:2A0CE,:4CF8,:2A105,:2A20E,:2A291,:9EBB,:4D56,:9EF9,:9EFE,:9F05,:9F0F,:9F16,:9F3B,:2A600"]

/-- Canonical combining classes of Unicode 14.0, those not zero. -/
def combiningClassText : List String := [
  "300-314:230,315-315:232,316-319:220,31A-31A:232,31B-31B:216,31C-320:220,321-322:202,323-326:220,327-328:202,329-333:220,334-338:1,339-33C:220,33D-344:230,345-345:240,346-346:230,347-349:220,34A-34C:230,34D-34E:220,350-352:230,353-356:220,357-357:230,358-358:232,359-35A:220,35B-35B:230,35C-35C:233,35D-35E:234,35F-35F:233,360-361:234,362-362:233,363-36F:230,483-487:230,591-591:220,592-595:230,596-596:220,597-599:230,59A-59A:222,59B-59B:220,59C-5A1:230,5A2-5A7:220,5A8-5A9:230,5AA-5AA:220,5AB-5AC:230,5AD-5AD:222,5AE-5AE:228,5AF-5AF:230,5B0-5B0:10,5B1-5B1:11,5B2-5B2:12,5B3-5B3:13,5B4-5B4:14,5B5-5B5:15,5B6-5B6:16,5B7-5B7:17,5B8-5B8:18,5B9-5BA:19,5BB-5BB:20,5BC-5BC:21,5BD-5BD:22,5BF-5BF:23,5C1-5C1:24,5C2-5C2:25,5C4-5C4:230,5C5-5C5:220,5C7-5C7:18,610-617:230,618-618:30,619-619:31,61A-61A:32,64B-64B:27,64C-64C:28,64D-64D:29,64E-64E:30,64F-64F:31,650-650:32,651-651:33,652-652:34,653-654:230,655-656:220,657-65B:230,65C-65C:220,65D-65E:230,65F-65F:220,670-670:35,6D6-6DC:230,6DF-6E2:230,6E3-6E3:220,6E4-6E4:230,6E7-6E8:230,6EA-6EA:220,6EB-6EC:230,6ED-6ED:220,711-711:36,730-730:230,731-731:220,732-733:230,734-734:220,735-736:230,737-739:220,73A-73A:230,73B-73C:220,73D-73D:230,73E-73E:220,73F-741:230,742-742:220,743-743:230,744-744:220,745-745:230,746-746:220,747-747:230,748-748:220,749-74A:230,7EB-7F1:230,7F2-7F2:220,7F3-7F3:230,7FD-7FD:220,816-819:230,81B-823:230,825-827:230,829-82D:230,859-85B:220,898-898:230,899-89B:220,89C-89F:230,8CA-8CE:230,8CF-8D3:220,8D4-8E1:230,8E3-8E3:220",
  "8E4-8E5:230,8E6-8E6:220,8E7-8E8:230,8E9-8E9:220,8EA-8EC:230,8ED-8EF:220,8F0-8F0:27,8F1-8F1:28,8F2-8F2:29,8F3-8F5:230,8F6-8F6:220,8F7-8F8:230,8F9-8FA:220,8FB-8FF:230,93C-93C:7,94D-94D:9,951-951:230,952-952:220,953-954:230,9BC-9BC:7,9CD-9CD:9,9FE-9FE:230,A3C-A3C:7,A4D-A4D:9,ABC-ABC:7,ACD-ACD:9,B3C-B3C:7,B4D-B4D:9,BCD-BCD:9,C3C-C3C:7,C4D-C4D:9,C55-C55:84,C56-C56:91,CBC-CBC:7,CCD-CCD:9,D3B-D3C:9,D4D-D4D:9,DCA-DCA:9,E38-E39:103,E3A-E3A:9,E48-E4B:107,EB8-EB9:118,EBA-EBA:9,EC8-ECB:122,F18-F19:220,F35-F35:220,F37-F37:220,F39-F39:216,F71-F71:129,F72-F72:130,F74-F74:132,F7A-F7D:130,F80-F80:130,F82-F83:230,F84-F84:9,F86-F87:230,FC6-FC6:220,1037-1037:7,1039-103A:9,108D-108D:220,135D-135F:230,1714-1715:9,1734-1734:9,17D2-17D2:9,17DD-17DD:230,18A9-18A9:228,1939-1939:222,193A-193A:230,193B-193B:220,1A17-1A17:230,1A18-1A18:220,1A60-1A60:9,1A75-1A7C:230,1A7F-1A7F:220,1AB0-1AB4:230,1AB5-1ABA:220,1ABB-1ABC:230,1ABD-1ABD:220,1ABF-1AC0:220,1AC1-1AC2:230,1AC3-1AC4:220,1AC5-1AC9:230,1ACA-1ACA:220,1ACB-1ACE:230,1B34-1B34:7,1B44-1B44:9,1B6B-1B6B:230,1B6C-1B6C:220,1B6D-1B73:230,1BAA-1BAB:9,1BE6-1BE6:7,1BF2-1BF3:9,1C37-1C37:7,1CD0-1CD2:230,1CD4-1CD4:1,1CD5-1CD9:220,1CDA-1CDB:230,1CDC-1CDF:220,1CE0-1CE0:230,1CE2-1CE8:1,1CED-1CED:220,1CF4-1CF4:230,1CF8-1CF9:230,1DC0-1DC1:230,1DC2-1DC2:220,1DC3-1DC9:230,1DCA-1DCA:220,1DCB-1DCC:230,1DCD-1DCD:234,1DCE-1DCE:214,1DCF-1DCF:220,1DD0-1DD0:202,1DD1-1DF5:230,1DF6-1DF6:232,1DF7-1DF8:228,1DF9-1DF9:220,1DFA-1DFA:218,1DFB-1DFB:230,1DFC-1DFC:233,1DFD-1DFD:220",
  "1DFE-1DFE:230,1DFF-1DFF:220,20D0-20D1:230,20D2-20D3:1,20D4-20D7:230,20D8-20DA:1,20DB-20DC:230,20E1-20E1:230,20E5-20E6:1,20E7-20E7:230,20E8-20E8:220,20E9-20E9:230,20EA-20EB:1,20EC-20EF:220,20F0-20F0:230,2CEF-2CF1:230,2D7F-2D7F:9,2DE0-2DFF:230,302A-302A:218,302B-302B:228,302C-302C:232,302D-302D:222,302E-302F:224,3099-309A:8,A66F-A66F:230,A674-A67D:230,A69E-A69F:230,A6F0-A6F1:230,A806-A806:9,A82C-A82C:9,A8C4-A8C4:9,A8E0-A8F1:230,A92B-A92D:220,A953-A953:9,A9B3-A9B3:7,A9C0-A9C0:9,AAB0-AAB0:230,AAB2-AAB3:230,AAB4-AAB4:220,AAB7-AAB8:230,AABE-AABF:230,AAC1-AAC1:230,AAF6-AAF6:9,ABED-ABED:9,FB1E-FB1E:26,FE20-FE26:230,FE27-FE2D:220,FE2E-FE2F:230,101FD-101FD:220,102E0-102E0:220,10376-1037A:230,10A0D-10A0D:220,10A0F-10A0F:230,10A38-10A38:230,10A39-10A39:1,10A3A-10A3A:220,10A3F-10A3F:9,10AE5-10AE5:230,10AE6-10AE6:220,10D24-10D27:230,10EAB-10EAC:230,10F46-10F47:220,10F48-10F4A:230,10F4B-10F4B:220,10F4C-10F4C:230,10F4D-10F50:220,10F82-10F82:230,10F83-10F83:220,10F84-10F84:230,10F85-10F85:220,11046-11046:9,11070-11070:9,1107F-1107F:9,110B9-110B9:9,110BA-110BA:7,11100-11102:230,11133-11134:9,11173-11173:7,111C0-111C0:9,111CA-111CA:7,11235-11235:9,11236-11236:7,112E9-112E9:7,112EA-112EA:9,1133B-1133C:7,1134D-1134D:9,11366-1136C:230,11370-11374:230,11442-11442:9,11446-11446:7,1145E-1145E:230,114C2-114C2:9,114C3-114C3:7,115BF-115BF:9,115C0-115C0:7,1163F-1163F:9,116B6-116B6:9,116B7-116B7:7,1172B-1172B:9,11839-11839:9,1183A-1183A:7,1193D-1193E:9,11943-11943:7,119E0-119E0:9,11A34-11A34:9",
  "11A47-11A47:9,11A99-11A99:9,11C3F-11C3F:9,11D42-11D42:7,11D44-11D45:9,11D97-11D97:9,16AF0-16AF4:1,16B30-16B36:230,16FF0-16FF1:6,1BC9E-1BC9E:1,1D165-1D166:216,1D167-1D169:1,1D16D-1D16D:226,1D16E-1D172:216,1D17B-1D182:220,1D185-1D189:230,1D18A-1D18B:220,1D1AA-1D1AD:230,1D242-1D244:230,1E000-1E006:230,1E008-1E018:230,1E01B-1E021:230,1E023-1E024:230,1E026-1E02A:230,1E130-1E136:230,1E2AE-1E2AE:230,1E2EC-1E2EF:230,1E8D0-1E8D6:220,1E944-1E949:230,1E94A-1E94A:7"]

/-- Canonical pairs of the primary composites of Unicode 14.0. -/
def compositionText : List String := [
  "C0:41 300+3,:41 308,:41 30A,1:43 327,:45 300+2,:45 308,:49 300+2,:49 308,1:4E 303,:4F 300+3,:4F 308,2:55 300+2,:55 308,:59 301,2:61 300+3,:61 308,:61 30A,1:63 327,:65 300+2,:65 308,:69 300+2,:69 308,1:6E 303,:6F 300+3,:6F 308,2:75 300+2,:75 308,:79 301,1:79 308,:41 304,:61 304,:41 306,:61 306,:41 328,:61 328,:43 301,:63 301,:43 302,:63 302,:43 307,:63 307,:43 30C,:63 30C,:44 30C,:64 30C,2:45 304,:65 304,:45 306,:65 306,:45 307,:65 307,:45 328,:65 328,:45 30C,:65 30C,:47 302,:67 302,:47 306,:67 306,:47 307,:67 307,:47 327,:67 327,:48 302,:68 302,2:49 303,:69 303,:49 304,:69 304,:49 306,:69 306,:49 328,:69 328,:49 307,3:4A 302,:6A 302,:4B 327,:6B 327,1:4C 301,:6C 301,:4C 327,:6C 327,:4C 30C,:6C 30C,4:4E 301,:6E 301,:4E 327,:6E 327,:4E 30C,:6E 30C,3:4F 304,:6F 304,:4F 306,:6F 306,:4F 30B,:6F 30B,2:52 301,:72 301,:52 327,:72 327,:52 30C,:72 30C,:53 301,:73 301,:53 302,:73 302,:53 327,:73 327,:53 30C,:73 30C,:54 327,:74 327,:54 30C,:74 30C,2:55 303,:75 303,:55 304,:75 304,:55 306,:75 306,:55 30A,:75 30A,:55 30B,:75 30B,:55 328,:75 328,:57 302,:77 302,:59 302,:79 302,:59 308,:5A 301,:7A 301,:5A 307,:7A 307,:5A 30C,:7A 30C,21:4F 31B,:6F 31B,D:55 31B,:75 31B,1C:41 30C,:61 30C,:49 30C,:69 30C,:4F 30C,:6F 30C,:55 30C,:75 30C,:DC 304,:FC 304,:DC 301,:FC 301,:DC 30C,:FC 30C,:DC 300,:FC 300,1:C4 304,:E4 304,:226 304,:227 304,:C6 304,:E6 304,2:47 30C,:67 30C,:4B 30C,:6B 30C,:4F 328,:6F 328,:1EA 304,:1EB 304,:1B7 30C,:292 30C,:6A 30C,3:47 301,:67 301,2:4E 300,:6E 300,:C5 301,:E5 301,:C6 301",
  ":E6 301,:D8 301,:F8 301,:41 30F,:61 30F,:41 311,:61 311,:45 30F,:65 30F,:45 311,:65 311,:49 30F,:69 30F,:49 311,:69 311,:4F 30F,:6F 30F,:4F 311,:6F 311,:52 30F,:72 30F,:52 311,:72 311,:55 30F,:75 30F,:55 311,:75 311,:53 326,:73 326,:54 326,:74 326,2:48 30C,:68 30C,6:41 307,:61 307,:45 327,:65 327,:D6 304,:F6 304,:D5 304,:F5 304,:4F 307,:6F 307,:22E 304,:22F 304,:59 304,:79 304,151:A8 301,:391 301,1:395 301,:397 301,:399 301,1:39F 301,1:3A5 301,:3A9 301,:3CA 301,19:399 308,:3A5 308,:3B1 301,:3B5 301,:3B7 301,:3B9 301,:3CB 301,19:3B9 308,:3C5 308,:3BF 301,:3C5 301,:3C9 301,4:3D2 301,:3D2 308,2B:415 300,:415 308,1:413 301,3:406 308,4:41A 301,:418 300,:423 306,A:418 306,1F:438 306,16:435 300,:435 308,1:433 301,3:456 308,4:43A 301,:438 300,:443 306,17:474 30F,:475 30F,49:416 306,:436 306,D:410 306,:430 306,:410 308,:430 308,2:415 306,:435 306,2:4D8 308,:4D9 308,:416 308,:436 308,:417 308,:437 308,2:418 304,:438 304,:418 308,:438 308,:41E 308,:43E 308,2:4E8 308,:4E9 308,:42D 308,:44D 308,:423 304,:443 304,:423 308,:443 308,:423 30B,:443 30B,:427 308,:447 308,2:42B 308,:44B 308,128:627 653+1,:648 654,:627 655,:64A 654,99:6D5 654,1:6C1 654,10:6D2 654,255:928 93C,7:930 93C,2:933 93C,96:9C7 9BE,:9C7 9D7,17B:B47 B56,2:B47 B3E,:B47 B57,47:B92 BD7,35:BC6 BBE,:BC7 BBE,:BC6 BD7,7B:C46 C56,77:CBF CD5,6:CC6 CD5+1,1:CC6 CC2,:CCA CD5,7E:D46 D3E,:D47 D3E,:D46 D57,8D:DD9 DCA,1:DD9 DCF,:DDC DCA,:DD9 DDF,247:1025 102E,ADF:1B05 1B35,1:1B07 1B35,1:1B09 1B35,1:1B0B 1B35,1:1B0D 1B35,3:1B11 1B35",
  "28:1B3A 1B35,1:1B3C 1B35,2:1B3E 1B35,:1B3F 1B35,1:1B42 1B35,2BC:41 325,:61 325,:42 307,:62 307,:42 323,:62 323,:42 331,:62 331,:C7 301,:E7 301,:44 307,:64 307,:44 323,:64 323,:44 331,:64 331,:44 327,:64 327,:44 32D,:64 32D,:112 300,:113 300,:112 301,:113 301,:45 32D,:65 32D,:45 330,:65 330,:228 306,:229 306,:46 307,:66 307,:47 304,:67 304,:48 307,:68 307,:48 323,:68 323,:48 308,:68 308,:48 327,:68 327,:48 32E,:68 32E,:49 330,:69 330,:CF 301,:EF 301,:4B 301,:6B 301,:4B 323,:6B 323,:4B 331,:6B 331,:4C 323,:6C 323,:1E36 304,:1E37 304,:4C 331,:6C 331,:4C 32D,:6C 32D,:4D 301,:6D 301,:4D 307,:6D 307,:4D 323,:6D 323,:4E 307,:6E 307,:4E 323,:6E 323,:4E 331,:6E 331,:4E 32D,:6E 32D,:D5 301,:F5 301,:D5 308,:F5 308,:14C 300,:14D 300,:14C 301,:14D 301,:50 301,:70 301,:50 307,:70 307,:52 307,:72 307,:52 323,:72 323,:1E5A 304,:1E5B 304,:52 331,:72 331,:53 307,:73 307,:53 323,:73 323,:15A 307,:15B 307,:160 307,:161 307,:1E62 307,:1E63 307,:54 307,:74 307,:54 323,:74 323,:54 331,:74 331,:54 32D,:74 32D,:55 324,:75 324,:55 330,:75 330,:55 32D,:75 32D,:168 301,:169 301,:16A 308,:16B 308,:56 303,:76 303,:56 323,:76 323,:57 300,:77 300,:57 301,:77 301,:57 308,:77 308,:57 307,:77 307,:57 323,:77 323,:58 307,:78 307,:58 308,:78 308,:59 307,:79 307,:5A 302,:7A 302,:5A 323,:7A 323,:5A 331,:7A 331,:68 331,:74 308,:77 30A,:79 30A,1:17F 307,4:41 323,:61 323,:41 309,:61 309,:C2 301,:E2 301,:C2 300,:E2 300,:C2 309,:E2 309,:C2 303,:E2 303,:1EA0 302,:1EA1 302,:102 301,:103 301,:102 300,:103 300,:102 309",
  ":103 309,:102 303,:103 303,:1EA0 306,:1EA1 306,:45 323,:65 323,:45 309,:65 309,:45 303,:65 303,:CA 301,:EA 301,:CA 300,:EA 300,:CA 309,:EA 309,:CA 303,:EA 303,:1EB8 302,:1EB9 302,:49 309,:69 309,:49 323,:69 323,:4F 323,:6F 323,:4F 309,:6F 309,:D4 301,:F4 301,:D4 300,:F4 300,:D4 309,:F4 309,:D4 303,:F4 303,:1ECC 302,:1ECD 302,:1A0 301,:1A1 301,:1A0 300,:1A1 300,:1A0 309,:1A1 309,:1A0 303,:1A1 303,:1A0 323,:1A1 323,:55 323,:75 323,:55 309,:75 309,:1AF 301,:1B0 301,:1AF 300,:1B0 300,:1AF 309,:1B0 309,:1AF 303,:1B0 303,:1AF 323,:1B0 323,:59 300,:79 300,:59 323,:79 323,:59 309,:79 309,:59 303,:79 303,6:3B1 313+1,:1F00 300,:1F01 300,:1F00 301,:1F01 301,:1F00 342,:1F01 342,:391 313+1,:1F08 300,:1F09 300,:1F08 301,:1F09 301,:1F08 342,:1F09 342,:3B5 313+1,:1F10 300,:1F11 300,:1F10 301,:1F11 301,2:395 313+1,:1F18 300,:1F19 300,:1F18 301,:1F19 301,2:3B7 313+1,:1F20 300,:1F21 300,:1F20 301,:1F21 301,:1F20 342,:1F21 342,:397 313+1,:1F28 300,:1F29 300,:1F28 301,:1F29 301,:1F28 342,:1F29 342,:3B9 313+1,:1F30 300,:1F31 300,:1F30 301,:1F31 301,:1F30 342,:1F31 342,:399 313+1,:1F38 300,:1F39 300,:1F38 301,:1F39 301,:1F38 342,:1F39 342,:3BF 313+1,:1F40 300,:1F41 300,:1F40 301,:1F41 301,2:39F 313+1,:1F48 300,:1F49 300,:1F48 301,:1F49 301,2:3C5 313+1,:1F50 300,:1F51 300,:1F50 301,:1F51 301,:1F50 342,:1F51 342,1:3A5 314,1:1F59 300,1:1F59 301,1:1F59 342,:3C9 313+1,:1F60 300,:1F61 300,:1F60 301,:1F61 301,:1F60 342,:1F61 342,:3A9 313+1,:1F68 300,:1F69 300,:1F68 301,:1F69 301,:1F68 342,:1F69 342",
  ":3B1 300,1:3B5 300,1:3B7 300,1:3B9 300,1:3BF 300,1:3C5 300,1:3C9 300,3:1F00 345,:1F01 345,:1F02 345,:1F03 345,:1F04 345,:1F05 345,:1F06 345,:1F07 345,:1F08 345,:1F09 345,:1F0A 345,:1F0B 345,:1F0C 345,:1F0D 345,:1F0E 345,:1F0F 345,:1F20 345,:1F21 345,:1F22 345,:1F23 345,:1F24 345,:1F25 345,:1F26 345,:1F27 345,:1F28 345,:1F29 345,:1F2A 345,:1F2B 345,:1F2C 345,:1F2D 345,:1F2E 345,:1F2F 345,:1F60 345,:1F61 345,:1F62 345,:1F63 345,:1F64 345,:1F65 345,:1F66 345,:1F67 345,:1F68 345,:1F69 345,:1F6A 345,:1F6B 345,:1F6C 345,:1F6D 345,:1F6E 345,:1F6F 345,:3B1 306,:3B1 304,:1F70 345,:3B1 345,:3AC 345,1:3B1 342,:1FB6 345,:391 306,:391 304,:391 300,1:391 345,4:A8 342,:1F74 345,:3B7 345,:3AE 345,1:3B7 342,:1FC6 345,:395 300,1:397 300,1:397 345,:1FBF 300+1,:1FBF 342,:3B9 306,:3B9 304,:3CA 300,3:3B9 342,:3CA 342,:399 306,:399 304,:399 300,2:1FFE 300+1,:1FFE 342,:3C5 306,:3C5 304,:3CB 300,1:3C1 313+1,:3C5 342,:3CB 342,:3A5 306,:3A5 304,:3A5 300,1:3A1 314,:A8 300,4:1F7C 345,:3C9 345,:3CE 345,1:3C9 342,:1FF6 345,:39F 300,1:3A9 300,1:3A9 345,19D:2190 338,:2192 338,12:2194 338,1E:21D0 338,:21D4 338,:21D2 338,34:2203 338,4:2208 338,2:220B 338,17:2223 338,1:2225 338,1A:223C 338,2:2243 338,2:2245 338,1:2248 338,16:3D 338,1:2261 338,A:224D 338,:3C 338,:3E 338,:2264 338,:2265 338,2:2272 338,:2273 338,2:2276 338,:2277 338,6:227A 338,:227B 338,2:2282 338,:2283 338,2:2286 338,:2287 338,22:22A2 338,:22A8 338,:22A9 338,:22AB 338,30:227C 338,:227D 338,:2291 338,:2292 338,6:22B2 338,:22B3 338,:22B4 338",
  ":22B5 338,D5E:304B 3099,1:304D 3099,1:304F 3099,1:3051 3099,1:3053 3099,1:3055 3099,1:3057 3099,1:3059 3099,1:305B 3099,1:305D 3099,1:305F 3099,1:3061 3099,2:3064 3099,1:3066 3099,1:3068 3099,6:306F 3099+1,1:3072 3099+1,1:3075 3099+1,1:3078 3099+1,1:307B 3099+1,16:3046 3099,9:309D 3099,D:30AB 3099,1:30AD 3099,1:30AF 3099,1:30B1 3099,1:30B3 3099,1:30B5 3099,1:30B7 3099,1:30B9 3099,1:30BB 3099,1:30BD 3099,1:30BF 3099,1:30C1 3099,2:30C4 3099,1:30C6 3099,1:30C8 3099,6:30CF 3099+1,1:30D2 3099+1,1:30D5 3099+1,1:30D8 3099+1,1:30DB 3099+1,16:30A6 3099,2:30EF 3099,:30F0 3099,:30F1 3099,:30F2 3099,3:30FD 3099,DF9B:11099 110BA,1:1109B 110BA,E:110A5 110BA,82:11131 11127,:11132 11127,21B:11347 1133E,:11347 11357,16E:114B9 114BA,:114B9 114B0,1:114B9 114BD,FB:115B8 115AF,:115B9 115AF,37C:11935 11930"]

end MaskedLog.Unicode
