/-
# Table of domain name characters

Which characters are mapped to others before a domain name is looked at, which
are ignored and which may not occur, written as numbers in base sixteen.
-/

namespace SettingsBroker.Uri.Domain

/-- Runs of ignored characters: first character and length. -/
def ignoredTable : String := "
ad 1 34f 1 115f 2 17b4 2 180b 5 200b 1 2060 5 206a 6 3164 1 fe00 10 feff 1 ffa0 1 1bca0 4 1d173
8 e0100 f0"

/-- Runs of characters that may not occur: first character and length. -/
def disallowedTable : String := "
80 20 378 2 380 4 38b 1 38d 1 3a2 1 530 1 557 2 58b 2 590 1 5c8 8 5eb 4 5f5 11 61c 1 6dd 1 70e 2
74b 2 7b2 e 7fb 2 82e 2 83f 1 85c 2 85f 1 86b 5 890 7 8e2 1 984 1 98d 2 991 2 9a9 1 9b1 1 9b3 3
9ba 2 9c5 2 9c9 2 9cf 8 9d8 4 9de 1 9e4 2 9ff 2 a04 1 a0b 4 a11 2 a29 1 a31 1 a34 1 a37 1 a3a 2
a3d 1 a43 4 a49 2 a4e 3 a52 7 a5d 1 a5f 7 a77 a a84 1 a8e 1 a92 1 aa9 1 ab1 1 ab4 1 aba 2 ac6 1
aca 1 ace 2 ad1 f ae4 2 af2 7 b00 1 b04 1 b0d 2 b11 2 b29 1 b31 1 b34 1 b3a 2 b45 2 b49 2 b4e 7
b58 4 b5e 1 b64 2 b78 a b84 1 b8b 3 b91 1 b96 3 b9b 1 b9d 1 ba0 3 ba5 3 bab 3 bba 4 bc3 3 bc9 1
bce 2 bd1 6 bd8 e bfb 5 c0d 1 c11 1 c29 1 c3a 2 c45 1 c49 1 c4e 7 c57 1 c5b 1 c5e 2 c64 2 c70 7
c8d 1 c91 1 ca9 1 cb4 1 cba 2 cc5 1 cc9 1 cce 7 cd7 5 cdf 1 ce4 2 cf0 1 cf4 c d0d 1 d11 1 d45 1
d49 1 d50 4 d64 2 d80 1 d84 1 d97 3 db2 1 dbc 1 dbe 2 dc7 3 dcb 4 dd5 1 dd7 1 de0 6 df0 2 df5 c
e3b 4 e5c 25 e83 1 e85 1 e8b 1 ea4 1 ea6 1 ebe 2 ec5 1 ec7 1 ecf 1 eda 2 ee0 20 f48 1 f6d 4 f98
1 fbd 1 fcd 1 fdb 25 10c6 1 10c8 5 10ce 2 1249 1 124e 2 1257 1 1259 1 125e 2 1289 1 128e 2 12b1
1 12b6 2 12bf 1 12c1 1 12c6 2 12d7 1 1311 1 1316 2 135b 2 137d 3 139a 6 13f6 2 13fe 2 1680 1
169d 3 16f9 7 1716 9 1737 9 1754 c 176d 1 1771 1 1774 c 17de 2 17ea 6 17fa 6 181a 6 1879 7 18ab
5 18f6 a 191f 1 192c 4 193c 4 1941 3 196e 2 1975 b 19ac 4 19ca 6 19db 3 1a1c 2 1a5f 1 1a7d 2
1a8a 6 1a9a 6 1aae 2 1ade 2 1aec 14 1b4d 1 1bf4 8 1c38 3 1c4a 3 1c8b 5 1cbb 2 1cc8 8 1cfb 5 1f16
2 1f1e 2 1f46 2 1f4e 2 1f58 1 1f5a 1 1f5c 1 1f5e 1 1f7e 2 1fb5 1 1fc5 1 1fd4 2 1fdc 1 1ff0 2
1ff5 1 1fff 1 200e 2 2024 3 2028 7 2065 5 2072 2 208f 1 209d 3 20c2 e 20f1 f 218c 4 242a 16 244b
15 2488 14 2b74 2 2cf4 5 2d26 1 2d28 5 2d2e 2 2d68 7 2d71 e 2d97 9 2da7 1 2daf 1 2db7 1 2dbf 1
2dc7 1 2dcf 1 2dd7 1 2ddf 1 2e5e 22 2e9a 1 2ef4 c 2fd6 2a 3040 1 3097 2 3100 5 3130 1 318f 1
31e6 a 321f 1 33c2 1 33c7 1 33d8 1 a48d 3 a4c7 9 a62c 14 a6f8 8 a7dd 14 a82d 3 a83a 6 a878 8
a8c6 8 a8da 6 a954 b a97d 3 a9ce 1 a9da 4 a9ff 1 aa37 9 aa4e 2 aa5a 2 aac3 18 aaf7 a ab07 2 ab0f
2 ab17 9 ab27 1 ab2f 1 ab6c 4 abee 2 abfa 6 d7a4 c d7c7 4 d7fc 2104 fa6e 2 fada 26 fb07 c fb18 5
fb37 1 fb3d 1 fb3f 1 fb42 1 fb45 1 fdd0 20 fe12 1 fe19 7 fe30 1 fe52 2 fe67 1 fe6c 4 fe75 1 fefd
2 ff00 1 ffbf 3 ffc8 2 ffd0 2 ffd8 2 ffdd 3 ffe7 1 ffef 11 1000c 1 10027 1 1003b 1 1003e 1 1004e
2 1005e 22 100fb 5 10103 4 10134 3 1018f 1 1019d 3 101a1 2f 101fe 82 1029d 3 102d1 f 102fc 4
10324 9 1034b 5 1037b 5 1039e 1 103c4 4 103d6 2a 1049e 2 104aa 6 104d4 4 104fc 4 10528 8 10564 b
1057b 1 1058b 1 10593 1 10596 1 105a2 1 105b2 1 105ba 1 105bd 3 105f4 c 10737 9 10756 a 10768 18
10786 1 107b1 1 107bb 45 10806 2 10809 1 10836 1 10839 3 1083d 2 10856 1 1089f 8 108b0 30 108f3
1 108f6 5 1091c 3 1093a 5 1095a 26 109b8 4 109d0 2 10a04 1 10a07 5 10a14 1 10a18 1 10a36 2 10a3b
4 10a49 7 10a59 7 10aa0 20 10ae7 4 10af7 9 10b36 3 10b56 2 10b73 5 10b92 7 10b9d c 10bb0 50
10c49 37 10cb3 d 10cf3 7 10d28 8 10d3a 6 10d66 3 10d86 8 10d90 d0 10e7f 1 10eaa 1 10eae 2 10eb2
10 10ec8 8 10ed9 21 10f28 8 10f5a 16 10f8a 26 10fcc 14 10ff7 9 1104e 4 11076 9 110bd 1 110c3 d
110e9 7 110fa 6 11135 1 11148 8 11177 9 111e0 1 111f5 b 11212 1 11242 3e 11287 1 11289 1 1128e 1
1129e 1 112aa 6 112eb 5 112fa 6 11304 1 1130d 2 11311 2 11329 1 11331 1 11334 1 1133a 1 11345 2
11349 2 1134e 2 11351 6 11358 5 11364 2 1136d 3 11375 b 1138a 1 1138c 2 1138f 1 113b6 1 113c1 1
113c3 2 113c6 1 113cb 1 113d6 1 113d9 8 113e3 1d 1145c 1 11462 1e 114c8 8 114da a6 115b6 2 115de
22 11645 b 1165a 6 1166d 13 116ba 6 116ca 6 116e4 1c 1171b 2 1172c 4 11747 b9 1183c 64 118f3 c
11907 2 1190a 2 11914 1 11917 1 11936 1 11939 2 11947 9 1195a 46 119a8 2 119d8 2 119e5 1b 11a48
8 11aa3 d 11af9 7 11b0a 56 11b68 58 11be2 e 11bfa 6 11c09 1 11c37 1 11c46 a 11c6d 3 11c90 2
11ca8 1 11cb7 49 11d07 1 11d0a 1 11d37 3 11d3b 1 11d3e 1 11d48 8 11d5a 6 11d66 1 11d69 1 11d8f 1
11d92 1 11d99 7 11daa 6 11ddc 4 11dea f6 11ef9 7 11f11 1 11f3b 3 11f5b 55 11fb1 f 11ff2 d 1239a
66 1246f 1 12475 b 12544 a4c 12ff3 d 13430 10 13456 a 143fb 5 14647 1ab9 1613a 6c6 16a39 7 16a5f
1 16a6a 4 16abf 1 16aca 6 16aee 2 16af6 a 16b46 a 16b5a 1 16b62 1 16b78 5 16b90 1b0 16d7a c6
16e9b 5 16eb9 2 16ed4 2c 16f4b 4 16f88 7 16fa0 40 16fe5 b 16ff7 9 18cd6 29 18d1f 61 18df3 21fd
1aff4 1 1affc 1 1afff 1 1b123 f 1b133 1d 1b153 2 1b156 e 1b168 8 1b2fc 904 1bc6b 5 1bc7d 3 1bc89
7 1bc9a 2 1bca4 f5c 1ccfd 3 1ceb4 6 1ced1 f 1cef1 f 1cf2e 2 1cf47 9 1cfc4 3c 1d0f6 a 1d127 2
1d1eb 15 1d246 7a 1d2d4 c 1d2f4 c 1d357 9 1d379 87 1d455 1 1d49d 1 1d4a0 2 1d4a3 2 1d4a7 2 1d4ad
1 1d4ba 1 1d4bc 1 1d4c4 1 1d506 1 1d50b 2 1d515 1 1d51d 1 1d53a 1 1d53f 1 1d545 1 1d547 3 1d551
1 1d6a6 2 1d7cc 2 1da8c f 1daa0 1 1dab0 450 1df1f 6 1df2b d5 1e007 1 1e019 2 1e022 1 1e025 1
1e02b 5 1e06e 21 1e090 70 1e12d 3 1e13e 2 1e14a 4 1e150 140 1e2af 11 1e2fa 5 1e300 1d0 1e4fa d6
1e5fb 4 1e600 c0 1e6df 1 1e6f6 8 1e700 e0 1e7e7 1 1e7ec 1 1e7ef 1 1e7ff 1 1e8c5 2 1e8d7 29 1e94c
4 1e95a 4 1e960 311 1ecb5 4c 1ed3e c2 1ee04 1 1ee20 1 1ee23 1 1ee25 2 1ee28 1 1ee33 1 1ee38 1
1ee3a 1 1ee3c 6 1ee43 4 1ee48 1 1ee4a 1 1ee4c 1 1ee50 1 1ee53 1 1ee55 2 1ee58 1 1ee5a 1 1ee5c 1
1ee5e 1 1ee60 1 1ee63 1 1ee65 2 1ee6b 1 1ee73 1 1ee78 1 1ee7d 1 1ee7f 1 1ee8a 1 1ee9c 5 1eea4 1
1eeaa 1 1eebc 34 1eef2 10e 1f02c 4 1f094 c 1f0af 2 1f0c0 1 1f0d0 1 1f0f6 b 1f1ae 38 1f203 d
1f23c 4 1f249 7 1f252 e 1f266 9a 1f6d9 3 1f6ed 3 1f6fd 3 1f7da 6 1f7ec 4 1f7f1 f 1f80c 4 1f848 8
1f85a 6 1f888 8 1f8ae 2 1f8bc 4 1f8c2 e 1f8d9 27 1fa58 8 1fa6e 2 1fa7d 3 1fa8b 3 1fac7 1 1fac9 4
1fadd 2 1faeb 4 1faf9 7 1fb93 1 1fbfb 405 2a6e0 20 2b81e 2 2ceae 2 2ebe1 f 2ee5e 9a2 2fa1e 5e2
3134b 5 3347a acc86 e01f0 2fe10"

/-- Runs of characters that are mapped to one character each: first character, length,
distance between neighbours, and the first target.  Targets have the same
distance. -/
def singleTable : String := "
41 1a 1 61 a0 1 1 20 aa 1 1 61 b2 2 1 32 b5 1 1 3bc b9 1 1 31 ba 1 1 6f c0 17 1 e0 d8 7 1 f8 100
18 2 101 134 2 2 135 139 3 2 13a 141 4 2 142 14a 17 2 14b 178 1 1 ff 179 3 2 17a 17f 1 1 73 181
1 1 253 182 2 2 183 186 1 1 254 187 1 1 188 189 2 1 256 18b 1 1 18c 18e 1 1 1dd 18f 1 1 259 190
1 1 25b 191 1 1 192 193 1 1 260 194 1 1 263 196 1 1 269 197 1 1 268 198 1 1 199 19c 1 1 26f 19d
1 1 272 19f 1 1 275 1a0 3 2 1a1 1a6 1 1 280 1a7 1 1 1a8 1a9 1 1 283 1ac 1 1 1ad 1ae 1 1 288 1af
1 1 1b0 1b1 2 1 28a 1b3 2 2 1b4 1b7 1 1 292 1b8 1 1 1b9 1bc 1 1 1bd 1cd 8 2 1ce 1de 9 2 1df 1f4
1 1 1f5 1f6 1 1 195 1f7 1 1 1bf 1f8 14 2 1f9 220 1 1 19e 222 9 2 223 23a 1 1 2c65 23b 1 1 23c
23d 1 1 19a 23e 1 1 2c66 241 1 1 242 243 1 1 180 244 1 1 289 245 1 1 28c 246 5 2 247 2b0 2 2 68
2b1 1 1 266 2b3 1 1 72 2b4 1 1 279 2b5 1 1 27b 2b6 1 1 281 2b7 1 1 77 2b8 1 1 79 2e0 1 1 263 2e1
1 1 6c 2e2 1 1 73 2e3 1 1 78 2e4 1 1 295 340 2 1 300 343 1 1 313 345 1 1 3b9 370 2 2 371 374 1 1
2b9 376 1 1 377 37e 1 1 3b 37f 1 1 3f3 386 1 1 3ac 387 1 1 b7 388 3 1 3ad 38c 1 1 3cc 38e 2 1
3cd 391 11 1 3b1 3a3 9 1 3c3 3cf 1 1 3d7 3d0 1 1 3b2 3d1 1 1 3b8 3d2 1 1 3c5 3d3 1 1 3cd 3d4 1 1
3cb 3d5 1 1 3c6 3d6 1 1 3c0 3d8 c 2 3d9 3f0 1 1 3ba 3f1 1 1 3c1 3f2 1 1 3c3 3f4 1 1 3b8 3f5 1 1
3b5 3f7 1 1 3f8 3f9 1 1 3c3 3fa 1 1 3fb 3fd 3 1 37b 400 10 1 450 410 20 1 430 460 11 2 461 48a
1b 2 48b 4c0 1 1 4cf 4c1 7 2 4c2 4d0 30 2 4d1 531 26 1 561 f0c 1 1 f0b 10a0 26 1 2d00 10c7 1 1
2d27 10cd 1 1 2d2d 10fc 1 1 10dc 13f8 6 1 13f0 1c80 1 1 432 1c81 1 1 434 1c82 1 1 43e 1c83 2 1
441 1c85 1 1 442 1c86 1 1 44a 1c87 1 1 463 1c88 1 1 a64b 1c89 1 1 1c8a 1c90 2b 1 10d0 1cbd 3 1
10fd 1d2c 1 1 61 1d2d 1 1 e6 1d2e 2 2 62 1d31 5 2 65 1d32 1 1 1dd 1d34 4 2 68 1d3c 1 1 6f 1d3d 1
1 223 1d3e 1 1 70 1d3f 1 1 72 1d40 2 1 74 1d42 1 1 77 1d43 1 1 61 1d44 2 1 250 1d46 1 1 1d02
1d47 1 1 62 1d48 2 1 64 1d4a 1 1 259 1d4b 2 1 25b 1d4d 1 1 67 1d4f 1 1 6b 1d50 2 2 6d 1d51 1 1
14b 1d53 1 1 254 1d54 2 1 1d16 1d56 1 1 70 1d57 2 1 74 1d59 1 1 1d1d 1d5a 1 1 26f 1d5b 1 1 76
1d5c 1 1 1d25 1d5d 3 1 3b2 1d60 2 1 3c6 1d62 1 1 69 1d63 1 1 72 1d64 2 1 75 1d66 2 1 3b2 1d68 1
1 3c1 1d69 2 1 3c6 1d78 1 1 43d 1d9b 1 1 252 1d9c 1 1 63 1d9d 1 1 255 1d9e 1 1 f0 1d9f 1 1 25c
1da0 1 1 66 1da1 1 1 25f 1da2 1 1 261 1da3 1 1 265 1da4 3 1 268 1da7 1 1 1d7b 1da8 1 1 29d 1da9
1 1 26d 1daa 1 1 1d85 1dab 1 1 29f 1dac 1 1 271 1dad 1 1 270 1dae 4 1 272 1db2 1 1 278 1db3 2 1
282 1db5 1 1 1ab 1db6 2 1 289 1db8 1 1 1d1c 1db9 2 1 28b 1dbb 1 1 7a 1dbc 3 1 290 1dbf 1 1 3b8
1e00 4b 2 1e01 1e9b 1 1 1e61 1e9e 1 1 df 1ea0 30 2 1ea1 1f08 8 1 1f00 1f18 6 1 1f10 1f28 8 1
1f20 1f38 8 1 1f30 1f48 6 1 1f40 1f59 4 2 1f51 1f68 8 1 1f60 1f71 1 1 3ac 1f73 1 1 3ad 1f75 1 1
3ae 1f77 1 1 3af 1f79 1 1 3cc 1f7b 1 1 3cd 1f7d 1 1 3ce 1fb8 2 1 1fb0 1fba 1 1 1f70 1fbb 1 1 3ac
1fbe 1 1 3b9 1fc8 2 2 1f72 1fc9 1 1 3ad 1fcb 1 1 3ae 1fd3 1 1 390 1fd8 2 1 1fd0 1fda 1 1 1f76
1fdb 1 1 3af 1fe3 1 1 3b0 1fe8 2 1 1fe0 1fea 1 1 1f7a 1feb 1 1 3cd 1fec 1 1 1fe5 1fef 1 1 60
1ff8 1 1 1f78 1ff9 2 2 3cc 1ffa 1 1 1f7c 2000 1 1 20 2001 1 1 20 2002 1 1 20 2003 1 1 20 2004 1
1 20 2005 1 1 20 2006 1 1 20 2007 1 1 20 2008 1 1 20 2009 1 1 20 200a 1 1 20 2011 1 1 2010 202f
1 1 20 205f 1 1 20 2070 1 1 30 2071 1 1 69 2074 6 1 34 207a 1 1 2b 207b 1 1 2212 207c 1 1 3d
207d 2 1 28 207f 1 1 6e 2080 a 1 30 208a 1 1 2b 208b 1 1 2212 208c 1 1 3d 208d 2 1 28 2090 1 1
61 2091 1 1 65 2092 1 1 6f 2093 1 1 78 2094 1 1 259 2095 1 1 68 2096 4 1 6b 209a 1 1 70 209b 2 1
73 2102 1 1 63 2107 1 1 25b 210a 2 1 67 210c 1 1 68 210d 1 1 68 210e 1 1 68 210f 1 1 127 2110 1
1 69 2111 1 1 69 2112 1 1 6c 2113 2 2 6c 2119 3 1 70 211c 1 1 72 211d 1 1 72 2124 1 1 7a 2126 1
1 3c9 2128 1 1 7a 212a 1 1 6b 212b 1 1 e5 212c 2 1 62 212f 1 1 65 2130 2 1 65 2132 1 1 214e 2133
1 1 6d 2134 1 1 6f 2135 4 1 5d0 2139 1 1 69 213c 1 1 3c0 213d 1 1 3b3 213e 1 1 3b3 213f 1 1 3c0
2140 1 1 2211 2145 1 1 64 2146 2 1 64 2148 2 1 69 2160 1 1 69 2164 1 1 76 2169 1 1 78 216c 1 1
6c 216d 2 1 63 216f 1 1 6d 2170 1 1 69 2174 1 1 76 2179 1 1 78 217c 1 1 6c 217d 2 1 63 217f 1 1
6d 2183 1 1 2184 2329 2 1 3008 2460 9 1 31 24b6 1a 1 61 24d0 1a 1 61 24ea 1 1 30 2c00 30 1 2c30
2c60 1 1 2c61 2c62 1 1 26b 2c63 1 1 1d7d 2c64 1 1 27d 2c67 3 2 2c68 2c6d 1 1 251 2c6e 1 1 271
2c6f 1 1 250 2c70 1 1 252 2c72 1 1 2c73 2c75 1 1 2c76 2c7c 1 1 6a 2c7d 1 1 76 2c7e 2 1 23f 2c80
32 2 2c81 2ceb 2 2 2cec 2cf2 1 1 2cf3 2d6f 1 1 2d61 2e9f 1 1 6bcd 2ef3 1 1 9f9f 2f00 1 1 4e00
2f01 1 1 4e28 2f02 1 1 4e36 2f03 1 1 4e3f 2f04 1 1 4e59 2f05 1 1 4e85 2f06 1 1 4e8c 2f07 1 1
4ea0 2f08 1 1 4eba 2f09 1 1 513f 2f0a 1 1 5165 2f0b 1 1 516b 2f0c 1 1 5182 2f0d 1 1 5196 2f0e 1
1 51ab 2f0f 1 1 51e0 2f10 1 1 51f5 2f11 1 1 5200 2f12 1 1 529b 2f13 1 1 52f9 2f14 1 1 5315 2f15
1 1 531a 2f16 1 1 5338 2f17 1 1 5341 2f18 1 1 535c 2f19 1 1 5369 2f1a 1 1 5382 2f1b 1 1 53b6
2f1c 1 1 53c8 2f1d 1 1 53e3 2f1e 1 1 56d7 2f1f 1 1 571f 2f20 1 1 58eb 2f21 1 1 5902 2f22 1 1
590a 2f23 1 1 5915 2f24 1 1 5927 2f25 1 1 5973 2f26 1 1 5b50 2f27 1 1 5b80 2f28 1 1 5bf8 2f29 1
1 5c0f 2f2a 1 1 5c22 2f2b 1 1 5c38 2f2c 1 1 5c6e 2f2d 1 1 5c71 2f2e 1 1 5ddb 2f2f 1 1 5de5 2f30
1 1 5df1 2f31 1 1 5dfe 2f32 1 1 5e72 2f33 1 1 5e7a 2f34 1 1 5e7f 2f35 1 1 5ef4 2f36 1 1 5efe
2f37 1 1 5f0b 2f38 1 1 5f13 2f39 1 1 5f50 2f3a 1 1 5f61 2f3b 1 1 5f73 2f3c 1 1 5fc3 2f3d 1 1
6208 2f3e 1 1 6236 2f3f 1 1 624b 2f40 1 1 652f 2f41 1 1 6534 2f42 1 1 6587 2f43 1 1 6597 2f44 1
1 65a4 2f45 1 1 65b9 2f46 1 1 65e0 2f47 1 1 65e5 2f48 1 1 66f0 2f49 1 1 6708 2f4a 1 1 6728 2f4b
1 1 6b20 2f4c 1 1 6b62 2f4d 1 1 6b79 2f4e 1 1 6bb3 2f4f 1 1 6bcb 2f50 1 1 6bd4 2f51 1 1 6bdb
2f52 1 1 6c0f 2f53 1 1 6c14 2f54 1 1 6c34 2f55 1 1 706b 2f56 1 1 722a 2f57 1 1 7236 2f58 1 1
723b 2f59 1 1 723f 2f5a 1 1 7247 2f5b 1 1 7259 2f5c 1 1 725b 2f5d 1 1 72ac 2f5e 1 1 7384 2f5f 1
1 7389 2f60 1 1 74dc 2f61 1 1 74e6 2f62 1 1 7518 2f63 1 1 751f 2f64 1 1 7528 2f65 1 1 7530 2f66
1 1 758b 2f67 1 1 7592 2f68 1 1 7676 2f69 1 1 767d 2f6a 1 1 76ae 2f6b 1 1 76bf 2f6c 1 1 76ee
2f6d 1 1 77db 2f6e 1 1 77e2 2f6f 1 1 77f3 2f70 1 1 793a 2f71 1 1 79b8 2f72 1 1 79be 2f73 1 1
7a74 2f74 1 1 7acb 2f75 1 1 7af9 2f76 1 1 7c73 2f77 1 1 7cf8 2f78 1 1 7f36 2f79 1 1 7f51 2f7a 1
1 7f8a 2f7b 1 1 7fbd 2f7c 1 1 8001 2f7d 1 1 800c 2f7e 1 1 8012 2f7f 1 1 8033 2f80 1 1 807f 2f81
1 1 8089 2f82 1 1 81e3 2f83 1 1 81ea 2f84 1 1 81f3 2f85 1 1 81fc 2f86 1 1 820c 2f87 1 1 821b
2f88 1 1 821f 2f89 1 1 826e 2f8a 1 1 8272 2f8b 1 1 8278 2f8c 1 1 864d 2f8d 1 1 866b 2f8e 1 1
8840 2f8f 1 1 884c 2f90 1 1 8863 2f91 1 1 897e 2f92 1 1 898b 2f93 1 1 89d2 2f94 1 1 8a00 2f95 1
1 8c37 2f96 1 1 8c46 2f97 1 1 8c55 2f98 1 1 8c78 2f99 1 1 8c9d 2f9a 1 1 8d64 2f9b 1 1 8d70 2f9c
1 1 8db3 2f9d 1 1 8eab 2f9e 1 1 8eca 2f9f 1 1 8f9b 2fa0 1 1 8fb0 2fa1 1 1 8fb5 2fa2 1 1 9091
2fa3 1 1 9149 2fa4 1 1 91c6 2fa5 1 1 91cc 2fa6 1 1 91d1 2fa7 1 1 9577 2fa8 1 1 9580 2fa9 1 1
961c 2faa 1 1 96b6 2fab 1 1 96b9 2fac 1 1 96e8 2fad 1 1 9751 2fae 1 1 975e 2faf 1 1 9762 2fb0 1
1 9769 2fb1 1 1 97cb 2fb2 1 1 97ed 2fb3 1 1 97f3 2fb4 1 1 9801 2fb5 1 1 98a8 2fb6 1 1 98db 2fb7
1 1 98df 2fb8 1 1 9996 2fb9 1 1 9999 2fba 1 1 99ac 2fbb 1 1 9aa8 2fbc 1 1 9ad8 2fbd 1 1 9adf
2fbe 1 1 9b25 2fbf 1 1 9b2f 2fc0 1 1 9b32 2fc1 1 1 9b3c 2fc2 1 1 9b5a 2fc3 1 1 9ce5 2fc4 1 1
9e75 2fc5 1 1 9e7f 2fc6 1 1 9ea5 2fc7 1 1 9ebb 2fc8 1 1 9ec3 2fc9 1 1 9ecd 2fca 1 1 9ed1 2fcb 1
1 9ef9 2fcc 1 1 9efd 2fcd 1 1 9f0e 2fce 1 1 9f13 2fcf 1 1 9f20 2fd0 1 1 9f3b 2fd1 1 1 9f4a 2fd2
1 1 9f52 2fd3 1 1 9f8d 2fd4 1 1 9f9c 2fd5 1 1 9fa0 3000 1 1 20 3002 1 1 2e 3036 1 1 3012 3038 1
1 5341 3039 2 1 5344 3131 2 1 1100 3133 2 2 11aa 3134 1 1 1102 3136 1 1 11ad 3137 3 1 1103 313a
6 1 11b0 3140 1 1 111a 3141 3 1 1106 3144 1 1 1121 3145 a 1 1109 314f 15 1 1161 3165 2 1 1114
3167 2 1 11c7 3169 1 1 11cc 316a 1 1 11ce 316b 1 1 11d3 316c 1 1 11d7 316d 1 1 11d9 316e 1 1
111c 316f 1 1 11dd 3170 1 1 11df 3171 2 1 111d 3173 1 1 1120 3174 2 1 1122 3176 1 1 1127 3177 1
1 1129 3178 5 1 112b 317d 1 1 1132 317e 1 1 1136 317f 1 1 1140 3180 1 1 1147 3181 1 1 114c 3182
2 1 11f1 3184 3 1 1157 3187 2 1 1184 3189 1 1 1188 318a 2 1 1191 318c 1 1 1194 318d 1 1 119e
318e 1 1 11a1 3192 1 1 4e00 3193 1 1 4e8c 3194 1 1 4e09 3195 1 1 56db 3196 1 1 4e0a 3197 1 1
4e2d 3198 1 1 4e0b 3199 1 1 7532 319a 1 1 4e59 319b 1 1 4e19 319c 1 1 4e01 319d 1 1 5929 319e 1
1 5730 319f 1 1 4eba 3244 1 1 554f 3245 1 1 5e7c 3246 1 1 6587 3247 1 1 7b8f 3260 1 1 1100 3261
2 1 1102 3263 3 1 1105 3266 1 1 1109 3267 2 1 110b 3269 5 1 110e 326e 1 1 ac00 326f 1 1 b098
3270 1 1 b2e4 3271 1 1 b77c 3272 1 1 b9c8 3273 1 1 bc14 3274 1 1 c0ac 3275 1 1 c544 3276 1 1
c790 3277 1 1 cc28 3278 1 1 ce74 3279 1 1 d0c0 327a 1 1 d30c 327b 1 1 d558 327e 1 1 c6b0 3280 1
1 4e00 3281 1 1 4e8c 3282 1 1 4e09 3283 1 1 56db 3284 1 1 4e94 3285 1 1 516d 3286 1 1 4e03 3287
1 1 516b 3288 1 1 4e5d 3289 1 1 5341 328a 1 1 6708 328b 1 1 706b 328c 1 1 6c34 328d 1 1 6728
328e 1 1 91d1 328f 1 1 571f 3290 1 1 65e5 3291 1 1 682a 3292 1 1 6709 3293 1 1 793e 3294 1 1
540d 3295 1 1 7279 3296 1 1 8ca1 3297 1 1 795d 3298 1 1 52b4 3299 1 1 79d8 329a 1 1 7537 329b 1
1 5973 329c 1 1 9069 329d 1 1 512a 329e 1 1 5370 329f 1 1 6ce8 32a0 1 1 9805 32a1 1 1 4f11 32a2
1 1 5199 32a3 1 1 6b63 32a4 1 1 4e0a 32a5 1 1 4e2d 32a6 1 1 4e0b 32a7 1 1 5de6 32a8 1 1 53f3
32a9 1 1 533b 32aa 1 1 5b97 32ab 1 1 5b66 32ac 1 1 76e3 32ad 1 1 4f01 32ae 1 1 8cc7 32af 1 1
5354 32b0 1 1 591c 32d0 1 1 30a2 32d1 1 1 30a4 32d2 1 1 30a6 32d3 1 1 30a8 32d4 2 1 30aa 32d6 1
1 30ad 32d7 1 1 30af 32d8 1 1 30b1 32d9 1 1 30b3 32da 1 1 30b5 32db 1 1 30b7 32dc 1 1 30b9 32dd
1 1 30bb 32de 1 1 30bd 32df 1 1 30bf 32e0 1 1 30c1 32e1 1 1 30c4 32e2 1 1 30c6 32e3 1 1 30c8
32e4 6 1 30ca 32ea 1 1 30d2 32eb 1 1 30d5 32ec 1 1 30d8 32ed 1 1 30db 32ee 5 1 30de 32f3 1 1
30e4 32f4 1 1 30e6 32f5 6 1 30e8 32fb 4 1 30ef a640 17 2 a641 a680 e 2 a681 a69c 1 1 44a a69d 1
1 44c a722 7 2 a723 a732 1f 2 a733 a770 1 1 a76f a779 2 2 a77a a77d 1 1 1d79 a77e 5 2 a77f a78b
1 1 a78c a78d 1 1 265 a790 2 2 a791 a796 a 2 a797 a7aa 1 1 266 a7ab 1 1 25c a7ac 1 1 261 a7ad 1
1 26c a7ae 1 1 26a a7b0 1 1 29e a7b1 1 1 287 a7b2 1 1 29d a7b3 1 1 ab53 a7b4 8 2 a7b5 a7c4 1 1
a794 a7c5 1 1 282 a7c6 1 1 1d8e a7c7 2 2 a7c8 a7cb 1 1 264 a7cc 8 2 a7cd a7dc 1 1 19b a7f1 1 1
73 a7f2 1 1 63 a7f3 1 1 66 a7f4 1 1 71 a7f5 1 1 a7f6 a7f8 1 1 127 a7f9 1 1 153 ab5c 1 1 a727
ab5d 1 1 ab37 ab5e 1 1 26b ab5f 1 1 ab52 ab69 1 1 28d ab70 50 1 13a0 f900 1 1 8c48 f901 1 1 66f4
f902 1 1 8eca f903 1 1 8cc8 f904 1 1 6ed1 f905 1 1 4e32 f906 1 1 53e5 f907 1 1 9f9c f908 1 1
9f9c f909 1 1 5951 f90a 1 1 91d1 f90b 1 1 5587 f90c 1 1 5948 f90d 1 1 61f6 f90e 1 1 7669 f90f 1
1 7f85 f910 1 1 863f f911 1 1 87ba f912 1 1 88f8 f913 1 1 908f f914 1 1 6a02 f915 1 1 6d1b f916
1 1 70d9 f917 1 1 73de f918 1 1 843d f919 1 1 916a f91a 1 1 99f1 f91b 1 1 4e82 f91c 1 1 5375
f91d 1 1 6b04 f91e 1 1 721b f91f 1 1 862d f920 1 1 9e1e f921 1 1 5d50 f922 1 1 6feb f923 1 1
85cd f924 1 1 8964 f925 1 1 62c9 f926 1 1 81d8 f927 1 1 881f f928 1 1 5eca f929 1 1 6717 f92a 1
1 6d6a f92b 1 1 72fc f92c 1 1 90ce f92d 1 1 4f86 f92e 1 1 51b7 f92f 1 1 52de f930 1 1 64c4 f931
1 1 6ad3 f932 1 1 7210 f933 1 1 76e7 f934 1 1 8001 f935 1 1 8606 f936 1 1 865c f937 1 1 8def
f938 1 1 9732 f939 1 1 9b6f f93a 1 1 9dfa f93b 1 1 788c f93c 1 1 797f f93d 1 1 7da0 f93e 1 1
83c9 f93f 1 1 9304 f940 1 1 9e7f f941 1 1 8ad6 f942 1 1 58df f943 1 1 5f04 f944 1 1 7c60 f945 1
1 807e f946 1 1 7262 f947 1 1 78ca f948 1 1 8cc2 f949 1 1 96f7 f94a 1 1 58d8 f94b 1 1 5c62 f94c
1 1 6a13 f94d 1 1 6dda f94e 1 1 6f0f f94f 1 1 7d2f f950 1 1 7e37 f951 1 1 964b f952 1 1 52d2
f953 1 1 808b f954 1 1 51dc f955 1 1 51cc f956 1 1 7a1c f957 1 1 7dbe f958 1 1 83f1 f959 1 1
9675 f95a 1 1 8b80 f95b 1 1 62cf f95c 1 1 6a02 f95d 1 1 8afe f95e 1 1 4e39 f95f 1 1 5be7 f960 1
1 6012 f961 1 1 7387 f962 1 1 7570 f963 1 1 5317 f964 1 1 78fb f965 1 1 4fbf f966 1 1 5fa9 f967
1 1 4e0d f968 1 1 6ccc f969 1 1 6578 f96a 1 1 7d22 f96b 1 1 53c3 f96c 1 1 585e f96d 1 1 7701
f96e 1 1 8449 f96f 1 1 8aaa f970 1 1 6bba f971 1 1 8fb0 f972 1 1 6c88 f973 1 1 62fe f974 1 1
82e5 f975 1 1 63a0 f976 1 1 7565 f977 1 1 4eae f978 1 1 5169 f979 1 1 51c9 f97a 1 1 6881 f97b 1
1 7ce7 f97c 1 1 826f f97d 1 1 8ad2 f97e 1 1 91cf f97f 1 1 52f5 f980 1 1 5442 f981 1 1 5973 f982
1 1 5eec f983 1 1 65c5 f984 1 1 6ffe f985 1 1 792a f986 1 1 95ad f987 1 1 9a6a f988 1 1 9e97
f989 1 1 9ece f98a 1 1 529b f98b 1 1 66c6 f98c 1 1 6b77 f98d 1 1 8f62 f98e 1 1 5e74 f98f 1 1
6190 f990 1 1 6200 f991 1 1 649a f992 1 1 6f23 f993 1 1 7149 f994 1 1 7489 f995 1 1 79ca f996 1
1 7df4 f997 1 1 806f f998 1 1 8f26 f999 1 1 84ee f99a 1 1 9023 f99b 1 1 934a f99c 1 1 5217 f99d
1 1 52a3 f99e 1 1 54bd f99f 1 1 70c8 f9a0 1 1 88c2 f9a1 1 1 8aaa f9a2 1 1 5ec9 f9a3 1 1 5ff5
f9a4 1 1 637b f9a5 1 1 6bae f9a6 1 1 7c3e f9a7 1 1 7375 f9a8 1 1 4ee4 f9a9 1 1 56f9 f9aa 1 1
5be7 f9ab 1 1 5dba f9ac 1 1 601c f9ad 1 1 73b2 f9ae 1 1 7469 f9af 1 1 7f9a f9b0 1 1 8046 f9b1 1
1 9234 f9b2 1 1 96f6 f9b3 1 1 9748 f9b4 1 1 9818 f9b5 1 1 4f8b f9b6 1 1 79ae f9b7 1 1 91b4 f9b8
1 1 96b8 f9b9 1 1 60e1 f9ba 1 1 4e86 f9bb 1 1 50da f9bc 1 1 5bee f9bd 1 1 5c3f f9be 1 1 6599
f9bf 1 1 6a02 f9c0 1 1 71ce f9c1 1 1 7642 f9c2 1 1 84fc f9c3 1 1 907c f9c4 1 1 9f8d f9c5 1 1
6688 f9c6 1 1 962e f9c7 1 1 5289 f9c8 1 1 677b f9c9 1 1 67f3 f9ca 1 1 6d41 f9cb 1 1 6e9c f9cc 1
1 7409 f9cd 1 1 7559 f9ce 1 1 786b f9cf 1 1 7d10 f9d0 1 1 985e f9d1 1 1 516d f9d2 1 1 622e f9d3
1 1 9678 f9d4 1 1 502b f9d5 1 1 5d19 f9d6 1 1 6dea f9d7 1 1 8f2a f9d8 1 1 5f8b f9d9 1 1 6144
f9da 1 1 6817 f9db 1 1 7387 f9dc 1 1 9686 f9dd 1 1 5229 f9de 1 1 540f f9df 1 1 5c65 f9e0 1 1
6613 f9e1 1 1 674e f9e2 1 1 68a8 f9e3 1 1 6ce5 f9e4 1 1 7406 f9e5 1 1 75e2 f9e6 1 1 7f79 f9e7 1
1 88cf f9e8 1 1 88e1 f9e9 1 1 91cc f9ea 1 1 96e2 f9eb 1 1 533f f9ec 1 1 6eba f9ed 1 1 541d f9ee
1 1 71d0 f9ef 1 1 7498 f9f0 1 1 85fa f9f1 1 1 96a3 f9f2 1 1 9c57 f9f3 1 1 9e9f f9f4 1 1 6797
f9f5 1 1 6dcb f9f6 1 1 81e8 f9f7 1 1 7acb f9f8 1 1 7b20 f9f9 1 1 7c92 f9fa 1 1 72c0 f9fb 1 1
7099 f9fc 1 1 8b58 f9fd 1 1 4ec0 f9fe 1 1 8336 f9ff 1 1 523a fa00 1 1 5207 fa01 1 1 5ea6 fa02 1
1 62d3 fa03 1 1 7cd6 fa04 1 1 5b85 fa05 1 1 6d1e fa06 1 1 66b4 fa07 1 1 8f3b fa08 1 1 884c fa09
1 1 964d fa0a 1 1 898b fa0b 1 1 5ed3 fa0c 1 1 5140 fa0d 1 1 55c0 fa10 1 1 585a fa12 1 1 6674
fa15 1 1 51de fa16 1 1 732a fa17 1 1 76ca fa18 1 1 793c fa19 1 1 795e fa1a 1 1 7965 fa1b 1 1
798f fa1c 1 1 9756 fa1d 1 1 7cbe fa1e 1 1 7fbd fa20 1 1 8612 fa22 1 1 8af8 fa25 1 1 9038 fa26 1
1 90fd fa2a 1 1 98ef fa2b 1 1 98fc fa2c 1 1 9928 fa2d 1 1 9db4 fa2e 1 1 90de fa2f 1 1 96b7 fa30
1 1 4fae fa31 1 1 50e7 fa32 1 1 514d fa33 1 1 52c9 fa34 1 1 52e4 fa35 1 1 5351 fa36 1 1 559d
fa37 1 1 5606 fa38 1 1 5668 fa39 1 1 5840 fa3a 1 1 58a8 fa3b 1 1 5c64 fa3c 1 1 5c6e fa3d 1 1
6094 fa3e 1 1 6168 fa3f 1 1 618e fa40 1 1 61f2 fa41 1 1 654f fa42 1 1 65e2 fa43 1 1 6691 fa44 1
1 6885 fa45 1 1 6d77 fa46 1 1 6e1a fa47 1 1 6f22 fa48 1 1 716e fa49 1 1 722b fa4a 1 1 7422 fa4b
1 1 7891 fa4c 1 1 793e fa4d 1 1 7949 fa4e 1 1 7948 fa4f 1 1 7950 fa50 1 1 7956 fa51 1 1 795d
fa52 2 1 798d fa54 1 1 7a40 fa55 1 1 7a81 fa56 1 1 7bc0 fa57 1 1 7df4 fa58 1 1 7e09 fa59 1 1
7e41 fa5a 1 1 7f72 fa5b 1 1 8005 fa5c 1 1 81ed fa5d 1 1 8279 fa5e 1 1 8279 fa5f 1 1 8457 fa60 1
1 8910 fa61 1 1 8996 fa62 1 1 8b01 fa63 1 1 8b39 fa64 1 1 8cd3 fa65 1 1 8d08 fa66 1 1 8fb6 fa67
1 1 9038 fa68 1 1 96e3 fa69 1 1 97ff fa6a 1 1 983b fa6b 1 1 6075 fa6c 1 1 242ee fa6d 1 1 8218
fa70 1 1 4e26 fa71 1 1 51b5 fa72 1 1 5168 fa73 1 1 4f80 fa74 1 1 5145 fa75 1 1 5180 fa76 1 1
52c7 fa77 1 1 52fa fa78 1 1 559d fa79 1 1 5555 fa7a 1 1 5599 fa7b 1 1 55e2 fa7c 1 1 585a fa7d 1
1 58b3 fa7e 1 1 5944 fa7f 1 1 5954 fa80 1 1 5a62 fa81 1 1 5b28 fa82 1 1 5ed2 fa83 1 1 5ed9 fa84
1 1 5f69 fa85 1 1 5fad fa86 1 1 60d8 fa87 1 1 614e fa88 1 1 6108 fa89 1 1 618e fa8a 1 1 6160
fa8b 1 1 61f2 fa8c 1 1 6234 fa8d 1 1 63c4 fa8e 1 1 641c fa8f 1 1 6452 fa90 1 1 6556 fa91 1 1
6674 fa92 1 1 6717 fa93 1 1 671b fa94 1 1 6756 fa95 1 1 6b79 fa96 1 1 6bba fa97 1 1 6d41 fa98 1
1 6edb fa99 1 1 6ecb fa9a 1 1 6f22 fa9b 1 1 701e fa9c 1 1 716e fa9d 1 1 77a7 fa9e 1 1 7235 fa9f
1 1 72af faa0 1 1 732a faa1 1 1 7471 faa2 1 1 7506 faa3 1 1 753b faa4 1 1 761d faa5 1 1 761f
faa6 1 1 76ca faa7 1 1 76db faa8 1 1 76f4 faa9 1 1 774a faaa 1 1 7740 faab 1 1 78cc faac 1 1
7ab1 faad 1 1 7bc0 faae 1 1 7c7b faaf 1 1 7d5b fab0 1 1 7df4 fab1 1 1 7f3e fab2 1 1 8005 fab3 1
1 8352 fab4 1 1 83ef fab5 1 1 8779 fab6 1 1 8941 fab7 1 1 8986 fab8 1 1 8996 fab9 1 1 8abf faba
1 1 8af8 fabb 1 1 8acb fabc 1 1 8b01 fabd 1 1 8afe fabe 1 1 8aed fabf 1 1 8b39 fac0 1 1 8b8a
fac1 1 1 8d08 fac2 1 1 8f38 fac3 1 1 9072 fac4 1 1 9199 fac5 1 1 9276 fac6 1 1 967c fac7 1 1
96e3 fac8 1 1 9756 fac9 1 1 97db faca 1 1 97ff facb 1 1 980b facc 1 1 983b facd 1 1 9b12 face 1
1 9f9c facf 1 1 2284a fad0 1 1 22844 fad1 1 1 233d5 fad2 1 1 3b9d fad3 1 1 4018 fad4 1 1 4039
fad5 1 1 25249 fad6 1 1 25cd0 fad7 1 1 27ed3 fad8 1 1 9f43 fad9 1 1 9f8e fb20 1 1 5e2 fb21 1 1
5d0 fb22 2 1 5d3 fb24 3 1 5db fb27 1 1 5e8 fb28 1 1 5ea fb29 1 1 2b fb50 1 1 671 fb51 1 1 671
fb52 1 1 67b fb53 1 1 67b fb54 1 1 67b fb55 1 1 67b fb56 1 1 67e fb57 1 1 67e fb58 2 2 67e fb59
2 2 67e fb5c 1 1 680 fb5d 1 1 680 fb5e 1 1 67a fb5f 1 1 67a fb60 1 1 67a fb61 1 1 67a fb62 1 1
67f fb63 1 1 67f fb64 1 1 67f fb65 1 1 67f fb66 1 1 679 fb67 1 1 679 fb68 1 1 679 fb69 1 1 679
fb6a 1 1 6a4 fb6b 1 1 6a4 fb6c 2 2 6a4 fb6d 2 2 6a4 fb70 1 1 6a6 fb71 1 1 6a6 fb72 1 1 684 fb73
1 1 684 fb74 1 1 684 fb75 1 1 684 fb76 1 1 683 fb77 1 1 683 fb78 1 1 683 fb79 1 1 683 fb7a 1 1
686 fb7b 1 1 686 fb7c 1 1 686 fb7d 2 1 686 fb7f 1 1 687 fb80 1 1 687 fb81 1 1 687 fb82 1 1 68d
fb83 1 1 68d fb84 2 2 68c fb85 2 2 68c fb88 1 1 688 fb89 1 1 688 fb8a 1 1 698 fb8b 1 1 698 fb8c
1 1 691 fb8d 1 1 691 fb8e 1 1 6a9 fb8f 1 1 6a9 fb90 1 1 6a9 fb91 1 1 6a9 fb92 1 1 6af fb93 1 1
6af fb94 1 1 6af fb95 1 1 6af fb96 1 1 6b3 fb97 1 1 6b3 fb98 1 1 6b3 fb99 1 1 6b3 fb9a 1 1 6b1
fb9b 1 1 6b1 fb9c 1 1 6b1 fb9d 1 1 6b1 fb9e 1 1 6ba fb9f 2 1 6ba fba1 1 1 6bb fba2 1 1 6bb fba3
1 1 6bb fba4 1 1 6c0 fba5 2 1 6c0 fba7 1 1 6c1 fba8 1 1 6c1 fba9 1 1 6c1 fbaa 1 1 6be fbab 1 1
6be fbac 1 1 6be fbad 1 1 6be fbae 1 1 6d2 fbaf 2 1 6d2 fbb1 1 1 6d3 fbd3 1 1 6ad fbd4 1 1 6ad
fbd5 1 1 6ad fbd6 1 1 6ad fbd7 1 1 6c7 fbd8 1 1 6c7 fbd9 2 2 6c6 fbda 2 2 6c6 fbde 1 1 6cb fbdf
1 1 6cb fbe0 1 1 6c5 fbe1 1 1 6c5 fbe2 1 1 6c9 fbe3 1 1 6c9 fbe4 1 1 6d0 fbe5 1 1 6d0 fbe6 1 1
6d0 fbe7 1 1 6d0 fbe8 1 1 649 fbe9 1 1 649 fbfc 1 1 6cc fbfd 1 1 6cc fbfe 1 1 6cc fbff 1 1 6cc
fe10 1 1 2c fe11 1 1 3001 fe13 2 1 3a fe15 1 1 21 fe16 1 1 3f fe17 2 1 3016 fe31 1 1 2014 fe32 1
1 2013 fe33 1 1 5f fe34 1 1 5f fe35 2 1 28 fe37 1 1 7b fe38 1 1 7d fe39 2 1 3014 fe3b 2 1 3010
fe3d 2 1 300a fe3f 2 1 3008 fe41 4 1 300c fe47 1 1 5b fe48 1 1 5d fe4d 1 1 5f fe4e 1 1 5f fe4f 1
1 5f fe50 1 1 2c fe51 1 1 3001 fe54 1 1 3b fe55 1 1 3a fe56 1 1 3f fe57 1 1 21 fe58 1 1 2014
fe59 2 1 28 fe5b 1 1 7b fe5c 1 1 7d fe5d 2 1 3014 fe5f 1 1 23 fe60 1 1 26 fe61 2 1 2a fe63 1 1
2d fe64 1 1 3c fe65 1 1 3e fe66 1 1 3d fe68 1 1 5c fe69 2 1 24 fe6b 1 1 40 fe80 2 1 621 fe82 2 1
622 fe84 2 1 623 fe86 2 1 624 fe88 2 1 625 fe8a 1 1 626 fe8b 1 1 626 fe8c 2 1 626 fe8e 2 1 627
fe90 1 1 628 fe91 1 1 628 fe92 2 1 628 fe94 2 1 629 fe96 1 1 62a fe97 1 1 62a fe98 2 1 62a fe9a
1 1 62b fe9b 1 1 62b fe9c 2 1 62b fe9e 1 1 62c fe9f 1 1 62c fea0 2 1 62c fea2 1 1 62d fea3 1 1
62d fea4 2 1 62d fea6 1 1 62e fea7 1 1 62e fea8 2 1 62e feaa 2 1 62f feac 2 1 630 feae 2 1 631
feb0 2 1 632 feb2 1 1 633 feb3 1 1 633 feb4 2 1 633 feb6 1 1 634 feb7 1 1 634 feb8 2 1 634 feba
1 1 635 febb 1 1 635 febc 2 1 635 febe 1 1 636 febf 1 1 636 fec0 2 1 636 fec2 1 1 637 fec3 1 1
637 fec4 2 1 637 fec6 1 1 638 fec7 1 1 638 fec8 2 1 638 feca 1 1 639 fecb 1 1 639 fecc 2 1 639
fece 1 1 63a fecf 1 1 63a fed0 1 1 63a fed1 1 1 641 fed2 1 1 641 fed3 1 1 641 fed4 2 1 641 fed6
1 1 642 fed7 1 1 642 fed8 2 1 642 feda 1 1 643 fedb 1 1 643 fedc 2 1 643 fede 1 1 644 fedf 1 1
644 fee0 2 1 644 fee2 1 1 645 fee3 1 1 645 fee4 2 1 645 fee6 1 1 646 fee7 1 1 646 fee8 2 1 646
feea 1 1 647 feeb 1 1 647 feec 2 1 647 feee 2 1 648 fef0 2 1 649 fef2 1 1 64a fef3 1 1 64a fef4
1 1 64a ff01 20 1 21 ff21 1a 1 61 ff3b 24 1 5b ff5f 2 1 2985 ff61 1 1 2e ff62 2 1 300c ff64 1 1
3001 ff65 1 1 30fb ff66 1 1 30f2 ff67 1 1 30a1 ff68 1 1 30a3 ff69 1 1 30a5 ff6a 1 1 30a7 ff6b 1
1 30a9 ff6c 1 1 30e3 ff6d 1 1 30e5 ff6e 1 1 30e7 ff6f 1 1 30c3 ff70 1 1 30fc ff71 1 1 30a2 ff72
1 1 30a4 ff73 1 1 30a6 ff74 1 1 30a8 ff75 2 1 30aa ff77 1 1 30ad ff78 1 1 30af ff79 1 1 30b1
ff7a 1 1 30b3 ff7b 1 1 30b5 ff7c 1 1 30b7 ff7d 1 1 30b9 ff7e 1 1 30bb ff7f 1 1 30bd ff80 1 1
30bf ff81 1 1 30c1 ff82 1 1 30c4 ff83 1 1 30c6 ff84 1 1 30c8 ff85 6 1 30ca ff8b 1 1 30d2 ff8c 1
1 30d5 ff8d 1 1 30d8 ff8e 1 1 30db ff8f 5 1 30de ff94 1 1 30e4 ff95 1 1 30e6 ff96 6 1 30e8 ff9c
1 1 30ef ff9d 1 1 30f3 ff9e 2 1 3099 ffa1 2 1 1100 ffa3 2 2 11aa ffa4 1 1 1102 ffa6 1 1 11ad
ffa7 3 1 1103 ffaa 6 1 11b0 ffb0 1 1 111a ffb1 3 1 1106 ffb4 1 1 1121 ffb5 a 1 1109 ffc2 6 1
1161 ffca 6 1 1167 ffd2 6 1 116d ffda 3 1 1173 ffe0 2 1 a2 ffe2 1 1 ac ffe4 1 1 a6 ffe5 1 1 a5
ffe6 1 1 20a9 ffe8 1 1 2502 ffe9 4 1 2190 ffed 1 1 25a0 ffee 1 1 25cb 10400 28 1 10428 104b0 24
1 104d8 10570 13 2 10597 10571 5 2 10598 1057d 7 2 105a4 1058d 3 2 105b4 10595 1 1 105bc 10781 2
1 2d0 10783 1 1 e6 10784 1 1 299 10785 1 1 253 10787 2 2 2a3 10788 1 1 ab66 1078a 1 1 2a4 1078b
2 1 256 1078d 1 1 1d91 1078e 1 1 258 1078f 1 1 25e 10790 1 1 2a9 10791 1 1 264 10792 1 1 262
10793 1 1 260 10794 1 1 29b 10795 1 1 127 10796 1 1 29c 10797 1 1 267 10798 1 1 284 10799 2 1
2aa 1079b 1 1 26c 1079c 1 1 1df04 1079d 1 1 a78e 1079e 1 1 26e 1079f 1 1 1df05 107a0 1 1 28e
107a1 1 1 1df06 107a2 1 1 f8 107a3 2 1 276 107a5 1 1 71 107a6 1 1 27a 107a7 1 1 1df08 107a8 2 1
27d 107aa 1 1 280 107ab 1 1 2a8 107ac 1 1 2a6 107ad 1 1 ab67 107ae 1 1 2a7 107af 1 1 288 107b0 1
1 2c71 107b2 1 1 28f 107b3 2 1 2a1 107b5 1 1 298 107b6 3 1 1c0 107b9 1 1 1df0a 107ba 1 1 1df1e
10c80 33 1 10cc0 10d50 16 1 10d70 118a0 20 1 118c0 16e40 20 1 16e60 16ea0 19 1 16ebb 1ccd6 1a 1
61 1ccf0 a 1 30 1d400 1a 1 61 1d41a 1a 1 61 1d434 1a 1 61 1d44e d 2 61 1d44f 3 2 62 1d457 9 2 6a
1d468 1a 1 61 1d482 1a 1 61 1d49c 2 2 61 1d49f 1 1 64 1d4a2 1 1 67 1d4a5 2 1 6a 1d4a9 4 1 6e
1d4ae 8 1 73 1d4b6 4 1 61 1d4bb b 2 66 1d4be 3 2 69 1d4c6 5 2 71 1d4d0 1a 1 61 1d4ea 1a 1 61
1d504 2 1 61 1d507 4 1 64 1d50d 8 1 6a 1d516 7 1 73 1d51e 1a 1 61 1d538 2 1 61 1d53b 4 1 64
1d540 5 1 69 1d546 1 1 6f 1d54a 7 1 73 1d552 1a 1 61 1d56c 1a 1 61 1d586 1a 1 61 1d5a0 1a 1 61
1d5ba 1a 1 61 1d5d4 1a 1 61 1d5ee 1a 1 61 1d608 1a 1 61 1d622 1a 1 61 1d63c 1a 1 61 1d656 1a 1
61 1d670 1a 1 61 1d68a 1a 1 61 1d6a4 1 1 131 1d6a5 1 1 237 1d6a8 11 1 3b1 1d6b9 1 1 3b8 1d6ba 7
1 3c3 1d6c1 1 1 2207 1d6c2 11 1 3b1 1d6d3 1 1 3c3 1d6d4 7 1 3c3 1d6db 1 1 2202 1d6dc 1 1 3b5
1d6dd 1 1 3b8 1d6de 1 1 3ba 1d6df 1 1 3c6 1d6e0 1 1 3c1 1d6e1 1 1 3c0 1d6e2 11 1 3b1 1d6f3 1 1
3b8 1d6f4 7 1 3c3 1d6fb 1 1 2207 1d6fc 11 1 3b1 1d70d 1 1 3c3 1d70e 7 1 3c3 1d715 1 1 2202 1d716
1 1 3b5 1d717 1 1 3b8 1d718 1 1 3ba 1d719 1 1 3c6 1d71a 1 1 3c1 1d71b 1 1 3c0 1d71c 11 1 3b1
1d72d 1 1 3b8 1d72e 7 1 3c3 1d735 1 1 2207 1d736 11 1 3b1 1d747 1 1 3c3 1d748 7 1 3c3 1d74f 1 1
2202 1d750 1 1 3b5 1d751 1 1 3b8 1d752 1 1 3ba 1d753 1 1 3c6 1d754 1 1 3c1 1d755 1 1 3c0 1d756
11 1 3b1 1d767 1 1 3b8 1d768 7 1 3c3 1d76f 1 1 2207 1d770 11 1 3b1 1d781 1 1 3c3 1d782 7 1 3c3
1d789 1 1 2202 1d78a 1 1 3b5 1d78b 1 1 3b8 1d78c 1 1 3ba 1d78d 1 1 3c6 1d78e 1 1 3c1 1d78f 1 1
3c0 1d790 11 1 3b1 1d7a1 1 1 3b8 1d7a2 7 1 3c3 1d7a9 1 1 2207 1d7aa 11 1 3b1 1d7bb 1 1 3c3 1d7bc
7 1 3c3 1d7c3 1 1 2202 1d7c4 1 1 3b5 1d7c5 1 1 3b8 1d7c6 1 1 3ba 1d7c7 1 1 3c6 1d7c8 1 1 3c1
1d7c9 1 1 3c0 1d7ca 1 1 3dd 1d7cb 1 1 3dd 1d7ce a 1 30 1d7d8 a 1 30 1d7e2 a 1 30 1d7ec a 1 30
1d7f6 a 1 30 1e030 9 1 430 1e039 3 1 43a 1e03c b 1 43e 1e047 1 1 44b 1e048 2 1 44d 1e04a 1 1
a689 1e04b 1 1 4d9 1e04c 1 1 456 1e04d 1 1 458 1e04e 1 1 4e9 1e04f 1 1 4af 1e050 1 1 4cf 1e051 9
1 430 1e05a 2 1 43a 1e05c 2 1 43e 1e05e 1 1 441 1e05f 6 1 443 1e065 2 1 44a 1e067 1 1 491 1e068
1 1 456 1e069 1 1 455 1e06a 1 1 45f 1e06b 1 1 4ab 1e06c 1 1 a651 1e06d 1 1 4b1 1e900 22 1 1e922
1ee00 2 1 627 1ee02 1 1 62c 1ee03 1 1 62f 1ee05 1 1 648 1ee06 1 1 632 1ee07 1 1 62d 1ee08 1 1
637 1ee09 1 1 64a 1ee0a 4 1 643 1ee0e 1 1 633 1ee0f 1 1 639 1ee10 1 1 641 1ee11 1 1 635 1ee12 1
1 642 1ee13 1 1 631 1ee14 1 1 634 1ee15 2 1 62a 1ee17 1 1 62e 1ee18 1 1 630 1ee19 1 1 636 1ee1a
1 1 638 1ee1b 1 1 63a 1ee1c 1 1 66e 1ee1d 1 1 6ba 1ee1e 1 1 6a1 1ee1f 1 1 66f 1ee21 1 1 628
1ee22 1 1 62c 1ee24 1 1 647 1ee27 1 1 62d 1ee29 1 1 64a 1ee2a 4 1 643 1ee2e 1 1 633 1ee2f 1 1
639 1ee30 1 1 641 1ee31 1 1 635 1ee32 1 1 642 1ee34 1 1 634 1ee35 2 1 62a 1ee37 1 1 62e 1ee39 1
1 636 1ee3b 1 1 63a 1ee42 1 1 62c 1ee47 1 1 62d 1ee49 1 1 64a 1ee4b 2 2 644 1ee4e 1 1 633 1ee4f
1 1 639 1ee51 1 1 635 1ee52 1 1 642 1ee54 1 1 634 1ee57 1 1 62e 1ee59 1 1 636 1ee5b 1 1 63a
1ee5d 1 1 6ba 1ee5f 1 1 66f 1ee61 1 1 628 1ee62 1 1 62c 1ee64 1 1 647 1ee67 1 1 62d 1ee68 1 1
637 1ee69 1 1 64a 1ee6a 2 2 643 1ee6d 1 1 646 1ee6e 1 1 633 1ee6f 1 1 639 1ee70 1 1 641 1ee71 1
1 635 1ee72 1 1 642 1ee74 1 1 634 1ee75 2 1 62a 1ee77 1 1 62e 1ee79 1 1 636 1ee7a 1 1 638 1ee7b
1 1 63a 1ee7c 1 1 66e 1ee7e 1 1 6a1 1ee80 2 1 627 1ee82 1 1 62c 1ee83 1 1 62f 1ee84 2 1 647
1ee86 1 1 632 1ee87 1 1 62d 1ee88 1 1 637 1ee89 1 1 64a 1ee8b 3 1 644 1ee8e 1 1 633 1ee8f 1 1
639 1ee90 1 1 641 1ee91 1 1 635 1ee92 1 1 642 1ee93 1 1 631 1ee94 1 1 634 1ee95 2 1 62a 1ee97 1
1 62e 1ee98 1 1 630 1ee99 1 1 636 1ee9a 1 1 638 1ee9b 1 1 63a 1eea1 1 1 628 1eea2 1 1 62c 1eea3
1 1 62f 1eea5 1 1 648 1eea6 1 1 632 1eea7 1 1 62d 1eea8 1 1 637 1eea9 1 1 64a 1eeab 3 1 644
1eeae 1 1 633 1eeaf 1 1 639 1eeb0 1 1 641 1eeb1 1 1 635 1eeb2 1 1 642 1eeb3 1 1 631 1eeb4 1 1
634 1eeb5 2 1 62a 1eeb7 1 1 62e 1eeb8 1 1 630 1eeb9 1 1 636 1eeba 1 1 638 1eebb 1 1 63a 1f12b 1
1 63 1f12c 1 1 72 1f130 1a 1 61 1f202 1 1 30b5 1f210 1 1 624b 1f211 1 1 5b57 1f212 1 1 53cc
1f213 1 1 30c7 1f214 1 1 4e8c 1f215 1 1 591a 1f216 1 1 89e3 1f217 1 1 5929 1f218 1 1 4ea4 1f219
1 1 6620 1f21a 1 1 7121 1f21b 1 1 6599 1f21c 1 1 524d 1f21d 1 1 5f8c 1f21e 1 1 518d 1f21f 1 1
65b0 1f220 1 1 521d 1f221 1 1 7d42 1f222 1 1 751f 1f223 1 1 8ca9 1f224 1 1 58f0 1f225 1 1 5439
1f226 1 1 6f14 1f227 1 1 6295 1f228 1 1 6355 1f229 1 1 4e00 1f22a 1 1 4e09 1f22b 1 1 904a 1f22c
1 1 5de6 1f22d 1 1 4e2d 1f22e 1 1 53f3 1f22f 1 1 6307 1f230 1 1 8d70 1f231 1 1 6253 1f232 1 1
7981 1f233 1 1 7a7a 1f234 1 1 5408 1f235 1 1 6e80 1f236 1 1 6709 1f237 1 1 6708 1f238 1 1 7533
1f239 1 1 5272 1f23a 1 1 55b6 1f23b 1 1 914d 1f250 1 1 5f97 1f251 1 1 53ef 1fbf0 a 1 30 2f800 1
1 4e3d 2f801 1 1 4e38 2f802 1 1 4e41 2f803 1 1 20122 2f804 1 1 4f60 2f805 1 1 4fae 2f806 1 1
4fbb 2f807 1 1 5002 2f808 1 1 507a 2f809 1 1 5099 2f80a 1 1 50e7 2f80b 1 1 50cf 2f80c 1 1 349e
2f80d 1 1 2063a 2f80e 1 1 514d 2f80f 1 1 5154 2f810 1 1 5164 2f811 1 1 5177 2f812 1 1 2051c
2f813 1 1 34b9 2f814 1 1 5167 2f815 1 1 518d 2f816 1 1 2054b 2f817 1 1 5197 2f818 1 1 51a4 2f819
1 1 4ecc 2f81a 1 1 51ac 2f81b 1 1 51b5 2f81c 1 1 291df 2f81d 1 1 51f5 2f81e 1 1 5203 2f81f 1 1
34df 2f820 1 1 523b 2f821 1 1 5246 2f822 1 1 5272 2f823 1 1 5277 2f824 1 1 3515 2f825 1 1 52c7
2f826 1 1 52c9 2f827 1 1 52e4 2f828 1 1 52fa 2f829 2 1 5305 2f82b 1 1 5317 2f82c 1 1 5349 2f82d
1 1 5351 2f82e 1 1 535a 2f82f 1 1 5373 2f830 2 2 537d 2f831 1 1 537f 2f833 1 1 537f 2f834 1 1
20a2c 2f835 1 1 7070 2f836 1 1 53ca 2f837 1 1 53df 2f838 1 1 20b63 2f839 1 1 53eb 2f83a 1 1 53f1
2f83b 1 1 5406 2f83c 1 1 549e 2f83d 1 1 5438 2f83e 1 1 5448 2f83f 1 1 5468 2f840 1 1 54a2 2f841
1 1 54f6 2f842 1 1 5510 2f843 1 1 5553 2f844 1 1 5563 2f845 1 1 5584 2f846 1 1 5584 2f847 1 1
5599 2f848 1 1 55ab 2f849 1 1 55b3 2f84a 1 1 55c2 2f84b 1 1 5716 2f84c 1 1 5606 2f84d 1 1 5717
2f84e 1 1 5651 2f84f 1 1 5674 2f850 1 1 5207 2f851 1 1 58ee 2f852 1 1 57ce 2f853 1 1 57f4 2f854
1 1 580d 2f855 1 1 578b 2f856 1 1 5832 2f857 1 1 5831 2f858 1 1 58ac 2f859 1 1 214e4 2f85a 1 1
58f2 2f85b 1 1 58f7 2f85c 1 1 5906 2f85d 1 1 591a 2f85e 1 1 5922 2f85f 1 1 5962 2f860 1 1 216a8
2f861 1 1 216ea 2f862 1 1 59ec 2f863 1 1 5a1b 2f864 1 1 5a27 2f865 1 1 59d8 2f866 1 1 5a66 2f867
1 1 36ee 2f868 1 1 36fc 2f869 1 1 5b08 2f86a 1 1 5b3e 2f86b 1 1 5b3e 2f86c 1 1 219c8 2f86d 1 1
5bc3 2f86e 1 1 5bd8 2f86f 1 1 5be7 2f870 1 1 5bf3 2f871 1 1 21b18 2f872 1 1 5bff 2f873 1 1 5c06
2f874 1 1 5f53 2f875 1 1 5c22 2f876 1 1 3781 2f877 1 1 5c60 2f878 1 1 5c6e 2f879 1 1 5cc0 2f87a
1 1 5c8d 2f87b 2 2 21de4 2f87c 1 1 5d43 2f87e 1 1 5d6e 2f87f 1 1 5d6b 2f880 1 1 5d7c 2f881 2 1
5de1 2f883 1 1 382f 2f884 1 1 5dfd 2f885 1 1 5e28 2f886 1 1 5e3d 2f887 1 1 5e69 2f888 1 1 3862
2f889 1 1 22183 2f88a 1 1 387c 2f88b 1 1 5eb0 2f88c 1 1 5eb3 2f88d 1 1 5eb6 2f88e 1 1 5eca 2f88f
1 1 2a392 2f890 1 1 5efe 2f891 1 1 22331 2f892 1 1 22331 2f893 1 1 8201 2f894 1 1 5f22 2f895 1 1
5f22 2f896 1 1 38c7 2f897 1 1 232b8 2f898 1 1 261da 2f899 1 1 5f62 2f89a 1 1 5f6b 2f89b 1 1 38e3
2f89c 1 1 5f9a 2f89d 1 1 5fcd 2f89e 1 1 5fd7 2f89f 1 1 5ff9 2f8a0 1 1 6081 2f8a1 1 1 393a 2f8a2
1 1 391c 2f8a3 1 1 6094 2f8a4 1 1 226d4 2f8a5 1 1 60c7 2f8a6 1 1 6148 2f8a7 1 1 614c 2f8a8 1 1
614e 2f8a9 1 1 614c 2f8aa 1 1 617a 2f8ab 1 1 618e 2f8ac 1 1 61b2 2f8ad 1 1 61a4 2f8ae 1 1 61af
2f8af 1 1 61de 2f8b0 1 1 61f2 2f8b1 1 1 61f6 2f8b2 1 1 6210 2f8b3 1 1 621b 2f8b4 1 1 625d 2f8b5
1 1 62b1 2f8b6 1 1 62d4 2f8b7 1 1 6350 2f8b8 1 1 22b0c 2f8b9 1 1 633d 2f8ba 1 1 62fc 2f8bb 1 1
6368 2f8bc 1 1 6383 2f8bd 1 1 63e4 2f8be 1 1 22bf1 2f8bf 1 1 6422 2f8c0 1 1 63c5 2f8c1 1 1 63a9
2f8c2 1 1 3a2e 2f8c3 1 1 6469 2f8c4 1 1 647e 2f8c5 1 1 649d 2f8c6 1 1 6477 2f8c7 1 1 3a6c 2f8c8
1 1 654f 2f8c9 1 1 656c 2f8ca 1 1 2300a 2f8cb 1 1 65e3 2f8cc 1 1 66f8 2f8cd 1 1 6649 2f8ce 1 1
3b19 2f8cf 1 1 6691 2f8d0 1 1 3b08 2f8d1 1 1 3ae4 2f8d2 1 1 5192 2f8d3 1 1 5195 2f8d4 1 1 6700
2f8d5 1 1 669c 2f8d6 1 1 80ad 2f8d7 1 1 43d9 2f8d8 1 1 6717 2f8d9 1 1 671b 2f8da 1 1 6721 2f8db
1 1 675e 2f8dc 1 1 6753 2f8dd 1 1 233c3 2f8de 1 1 3b49 2f8df 1 1 67fa 2f8e0 1 1 6785 2f8e1 1 1
6852 2f8e2 1 1 6885 2f8e3 1 1 2346d 2f8e4 1 1 688e 2f8e5 1 1 681f 2f8e6 1 1 6914 2f8e7 1 1 3b9d
2f8e8 1 1 6942 2f8e9 1 1 69a3 2f8ea 1 1 69ea 2f8eb 1 1 6aa8 2f8ec 1 1 236a3 2f8ed 1 1 6adb 2f8ee
1 1 3c18 2f8ef 1 1 6b21 2f8f0 1 1 238a7 2f8f1 1 1 6b54 2f8f2 1 1 3c4e 2f8f3 1 1 6b72 2f8f4 1 1
6b9f 2f8f5 2 1 6bba 2f8f7 1 1 23a8d 2f8f8 1 1 21d0b 2f8f9 1 1 23afa 2f8fa 1 1 6c4e 2f8fb 1 1
23cbc 2f8fc 1 1 6cbf 2f8fd 1 1 6ccd 2f8fe 1 1 6c67 2f8ff 1 1 6d16 2f900 1 1 6d3e 2f901 1 1 6d77
2f902 1 1 6d41 2f903 1 1 6d69 2f904 1 1 6d78 2f905 1 1 6d85 2f906 1 1 23d1e 2f907 1 1 6d34 2f908
1 1 6e2f 2f909 1 1 6e6e 2f90a 1 1 3d33 2f90b 1 1 6ecb 2f90c 1 1 6ec7 2f90d 1 1 23ed1 2f90e 1 1
6df9 2f90f 1 1 6f6e 2f910 1 1 23f5e 2f911 1 1 23f8e 2f912 1 1 6fc6 2f913 1 1 7039 2f914 1 1 701e
2f915 1 1 701b 2f916 1 1 3d96 2f917 1 1 704a 2f918 1 1 707d 2f919 1 1 7077 2f91a 1 1 70ad 2f91b
1 1 20525 2f91c 1 1 7145 2f91d 1 1 24263 2f91e 1 1 719c 2f91f 1 1 243ab 2f920 1 1 7228 2f921 1 1
7235 2f922 1 1 7250 2f923 1 1 24608 2f924 1 1 7280 2f925 1 1 7295 2f926 1 1 24735 2f927 1 1
24814 2f928 1 1 737a 2f929 1 1 738b 2f92a 1 1 3eac 2f92b 1 1 73a5 2f92c 1 1 3eb8 2f92d 1 1 3eb8
2f92e 1 1 7447 2f92f 1 1 745c 2f930 1 1 7471 2f931 1 1 7485 2f932 1 1 74ca 2f933 1 1 3f1b 2f934
1 1 7524 2f935 1 1 24c36 2f936 1 1 753e 2f937 1 1 24c92 2f938 1 1 7570 2f939 1 1 2219f 2f93a 1 1
7610 2f93b 1 1 24fa1 2f93c 1 1 24fb8 2f93d 1 1 25044 2f93e 1 1 3ffc 2f93f 1 1 4008 2f940 1 1
76f4 2f941 1 1 250f3 2f942 1 1 250f2 2f943 1 1 25119 2f944 1 1 25133 2f945 2 1 771e 2f947 1 1
771f 2f948 1 1 774a 2f949 1 1 4039 2f94a 1 1 778b 2f94b 1 1 4046 2f94c 1 1 4096 2f94d 1 1 2541d
2f94e 1 1 784e 2f94f 1 1 788c 2f950 1 1 78cc 2f951 1 1 40e3 2f952 1 1 25626 2f953 1 1 7956 2f954
1 1 2569a 2f955 1 1 256c5 2f956 1 1 798f 2f957 1 1 79eb 2f958 1 1 412f 2f959 1 1 7a40 2f95a 1 1
7a4a 2f95b 1 1 7a4f 2f95c 1 1 2597c 2f95d 1 1 25aa7 2f95e 1 1 25aa7 2f95f 1 1 7aee 2f960 1 1
4202 2f961 1 1 25bab 2f962 1 1 7bc6 2f963 1 1 7bc9 2f964 1 1 4227 2f965 1 1 25c80 2f966 1 1 7cd2
2f967 1 1 42a0 2f968 1 1 7ce8 2f969 1 1 7ce3 2f96a 1 1 7d00 2f96b 1 1 25f86 2f96c 1 1 7d63 2f96d
1 1 4301 2f96e 1 1 7dc7 2f96f 1 1 7e02 2f970 1 1 7e45 2f971 1 1 4334 2f972 1 1 26228 2f973 1 1
26247 2f974 1 1 4359 2f975 1 1 262d9 2f976 1 1 7f7a 2f977 1 1 2633e 2f978 1 1 7f95 2f979 1 1
7ffa 2f97a 1 1 8005 2f97b 1 1 264da 2f97c 1 1 26523 2f97d 1 1 8060 2f97e 1 1 265a8 2f97f 1 1
8070 2f980 1 1 2335f 2f981 1 1 43d5 2f982 1 1 80b2 2f983 1 1 8103 2f984 1 1 440b 2f985 1 1 813e
2f986 1 1 5ab5 2f987 1 1 267a7 2f988 1 1 267b5 2f989 1 1 23393 2f98a 1 1 2339c 2f98b 1 1 8201
2f98c 1 1 8204 2f98d 1 1 8f9e 2f98e 1 1 446b 2f98f 1 1 8291 2f990 1 1 828b 2f991 1 1 829d 2f992
1 1 52b3 2f993 1 1 82b1 2f994 1 1 82b3 2f995 1 1 82bd 2f996 1 1 82e6 2f997 1 1 26b3c 2f998 1 1
82e5 2f999 1 1 831d 2f99a 1 1 8363 2f99b 1 1 83ad 2f99c 1 1 8323 2f99d 1 1 83bd 2f99e 1 1 83e7
2f99f 1 1 8457 2f9a0 1 1 8353 2f9a1 1 1 83ca 2f9a2 1 1 83cc 2f9a3 1 1 83dc 2f9a4 1 1 26c36 2f9a5
1 1 26d6b 2f9a6 1 1 26cd5 2f9a7 1 1 452b 2f9a8 1 1 84f1 2f9a9 1 1 84f3 2f9aa 1 1 8516 2f9ab 1 1
273ca 2f9ac 1 1 8564 2f9ad 1 1 26f2c 2f9ae 1 1 455d 2f9af 1 1 4561 2f9b0 1 1 26fb1 2f9b1 1 1
270d2 2f9b2 1 1 456b 2f9b3 1 1 8650 2f9b4 1 1 865c 2f9b5 1 1 8667 2f9b6 1 1 8669 2f9b7 1 1 86a9
2f9b8 1 1 8688 2f9b9 1 1 870e 2f9ba 1 1 86e2 2f9bb 1 1 8779 2f9bc 1 1 8728 2f9bd 1 1 876b 2f9be
1 1 8786 2f9bf 1 1 45d7 2f9c0 1 1 87e1 2f9c1 1 1 8801 2f9c2 1 1 45f9 2f9c3 1 1 8860 2f9c4 1 1
8863 2f9c5 1 1 27667 2f9c6 1 1 88d7 2f9c7 1 1 88de 2f9c8 1 1 4635 2f9c9 1 1 88fa 2f9ca 1 1 34bb
2f9cb 1 1 278ae 2f9cc 1 1 27966 2f9cd 1 1 46be 2f9ce 1 1 46c7 2f9cf 1 1 8aa0 2f9d0 1 1 8aed
2f9d1 1 1 8b8a 2f9d2 1 1 8c55 2f9d3 1 1 27ca8 2f9d4 1 1 8cab 2f9d5 1 1 8cc1 2f9d6 1 1 8d1b 2f9d7
1 1 8d77 2f9d8 1 1 27f2f 2f9d9 1 1 20804 2f9da 1 1 8dcb 2f9db 1 1 8dbc 2f9dc 1 1 8df0 2f9dd 1 1
208de 2f9de 1 1 8ed4 2f9df 1 1 8f38 2f9e0 1 1 285d2 2f9e1 1 1 285ed 2f9e2 1 1 9094 2f9e3 1 1
90f1 2f9e4 1 1 9111 2f9e5 1 1 2872e 2f9e6 1 1 911b 2f9e7 1 1 9238 2f9e8 2 1 92d7 2f9ea 1 1 927c
2f9eb 1 1 93f9 2f9ec 1 1 9415 2f9ed 1 1 28bfa 2f9ee 1 1 958b 2f9ef 1 1 4995 2f9f0 1 1 95b7 2f9f1
1 1 28d77 2f9f2 1 1 49e6 2f9f3 1 1 96c3 2f9f4 1 1 5db2 2f9f5 1 1 9723 2f9f6 1 1 29145 2f9f7 1 1
2921a 2f9f8 1 1 4a6e 2f9f9 1 1 4a76 2f9fa 1 1 97e0 2f9fb 1 1 2940a 2f9fc 1 1 4ab2 2f9fd 1 1
29496 2f9fe 1 1 980b 2f9ff 1 1 980b 2fa00 1 1 9829 2fa01 1 1 295b6 2fa02 1 1 98e2 2fa03 1 1 4b33
2fa04 1 1 9929 2fa05 1 1 99a7 2fa06 1 1 99c2 2fa07 1 1 99fe 2fa08 1 1 4bce 2fa09 1 1 29b30 2fa0a
1 1 9b12 2fa0b 1 1 9c40 2fa0c 1 1 9cfd 2fa0d 1 1 4cce 2fa0e 1 1 4ced 2fa0f 1 1 9d67 2fa10 1 1
2a0ce 2fa11 1 1 4cf8 2fa12 1 1 2a105 2fa13 1 1 2a20e 2fa14 1 1 2a291 2fa15 1 1 9ebb 2fa16 1 1
4d56 2fa17 1 1 9ef9 2fa18 1 1 9efe 2fa19 1 1 9f05 2fa1a 1 1 9f0f 2fa1b 1 1 9f16 2fa1c 1 1 9f3b
2fa1d 1 1 2a600"

/-- Characters that are mapped to several: the character, their number, and the
targets. -/
def expansionTable : String := "
a8 2 20 308 af 2 20 304 b4 2 20 301 b8 2 20 327 bc 3 31 2044 34 bd 3 31 2044 32 be 3 33 2044 34
130 2 69 307 132 2 69 6a 133 2 69 6a 13f 2 6c b7 140 2 6c b7 149 2 2bc 6e 1c4 2 64 17e 1c5 2 64
17e 1c6 2 64 17e 1c7 2 6c 6a 1c8 2 6c 6a 1c9 2 6c 6a 1ca 2 6e 6a 1cb 2 6e 6a 1cc 2 6e 6a 1f1 2
64 7a 1f2 2 64 7a 1f3 2 64 7a 2d8 2 20 306 2d9 2 20 307 2da 2 20 30a 2db 2 20 328 2dc 2 20 303
2dd 2 20 30b 344 2 308 301 37a 2 20 3b9 384 2 20 301 385 3 20 308 301 587 2 565 582 675 2 627
674 676 2 648 674 677 2 6c7 674 678 2 64a 674 958 2 915 93c 959 2 916 93c 95a 2 917 93c 95b 2
91c 93c 95c 2 921 93c 95d 2 922 93c 95e 2 92b 93c 95f 2 92f 93c 9dc 2 9a1 9bc 9dd 2 9a2 9bc 9df
2 9af 9bc a33 2 a32 a3c a36 2 a38 a3c a59 2 a16 a3c a5a 2 a17 a3c a5b 2 a1c a3c a5e 2 a2b a3c
b5c 2 b21 b3c b5d 2 b22 b3c e33 2 e4d e32 eb3 2 ecd eb2 edc 2 eab e99 edd 2 eab ea1 f43 2 f42
fb7 f4d 2 f4c fb7 f52 2 f51 fb7 f57 2 f56 fb7 f5c 2 f5b fb7 f69 2 f40 fb5 f73 2 f71 f72 f75 2
f71 f74 f76 2 fb2 f80 f77 3 fb2 f71 f80 f78 2 fb3 f80 f79 3 fb3 f71 f80 f81 2 f71 f80 f93 2 f92
fb7 f9d 2 f9c fb7 fa2 2 fa1 fb7 fa7 2 fa6 fb7 fac 2 fab fb7 fb9 2 f90 fb5 1e9a 2 61 2be 1f80 2
1f00 3b9 1f81 2 1f01 3b9 1f82 2 1f02 3b9 1f83 2 1f03 3b9 1f84 2 1f04 3b9 1f85 2 1f05 3b9 1f86 2
1f06 3b9 1f87 2 1f07 3b9 1f88 2 1f00 3b9 1f89 2 1f01 3b9 1f8a 2 1f02 3b9 1f8b 2 1f03 3b9 1f8c 2
1f04 3b9 1f8d 2 1f05 3b9 1f8e 2 1f06 3b9 1f8f 2 1f07 3b9 1f90 2 1f20 3b9 1f91 2 1f21 3b9 1f92 2
1f22 3b9 1f93 2 1f23 3b9 1f94 2 1f24 3b9 1f95 2 1f25 3b9 1f96 2 1f26 3b9 1f97 2 1f27 3b9 1f98 2
1f20 3b9 1f99 2 1f21 3b9 1f9a 2 1f22 3b9 1f9b 2 1f23 3b9 1f9c 2 1f24 3b9 1f9d 2 1f25 3b9 1f9e 2
1f26 3b9 1f9f 2 1f27 3b9 1fa0 2 1f60 3b9 1fa1 2 1f61 3b9 1fa2 2 1f62 3b9 1fa3 2 1f63 3b9 1fa4 2
1f64 3b9 1fa5 2 1f65 3b9 1fa6 2 1f66 3b9 1fa7 2 1f67 3b9 1fa8 2 1f60 3b9 1fa9 2 1f61 3b9 1faa 2
1f62 3b9 1fab 2 1f63 3b9 1fac 2 1f64 3b9 1fad 2 1f65 3b9 1fae 2 1f66 3b9 1faf 2 1f67 3b9 1fb2 2
1f70 3b9 1fb3 2 3b1 3b9 1fb4 2 3ac 3b9 1fb7 2 1fb6 3b9 1fbc 2 3b1 3b9 1fbd 2 20 313 1fbf 2 20
313 1fc0 2 20 342 1fc1 3 20 308 342 1fc2 2 1f74 3b9 1fc3 2 3b7 3b9 1fc4 2 3ae 3b9 1fc7 2 1fc6
3b9 1fcc 2 3b7 3b9 1fcd 3 20 313 300 1fce 3 20 313 301 1fcf 3 20 313 342 1fdd 3 20 314 300 1fde
3 20 314 301 1fdf 3 20 314 342 1fed 3 20 308 300 1fee 3 20 308 301 1ff2 2 1f7c 3b9 1ff3 2 3c9
3b9 1ff4 2 3ce 3b9 1ff7 2 1ff6 3b9 1ffc 2 3c9 3b9 1ffd 2 20 301 1ffe 2 20 314 2017 2 20 333 2033
2 2032 2032 2034 3 2032 2032 2032 2036 2 2035 2035 2037 3 2035 2035 2035 203c 2 21 21 203e 2 20
305 2047 2 3f 3f 2048 2 3f 21 2049 2 21 3f 2057 4 2032 2032 2032 2032 20a8 2 72 73 2100 3 61 2f
63 2101 3 61 2f 73 2103 2 b0 63 2105 3 63 2f 6f 2106 3 63 2f 75 2109 2 b0 66 2116 2 6e 6f 2120 2
73 6d 2121 3 74 65 6c 2122 2 74 6d 213b 3 66 61 78 2150 3 31 2044 37 2151 3 31 2044 39 2152 4 31
2044 31 30 2153 3 31 2044 33 2154 3 32 2044 33 2155 3 31 2044 35 2156 3 32 2044 35 2157 3 33
2044 35 2158 3 34 2044 35 2159 3 31 2044 36 215a 3 35 2044 36 215b 3 31 2044 38 215c 3 33 2044
38 215d 3 35 2044 38 215e 3 37 2044 38 215f 2 31 2044 2161 2 69 69 2162 3 69 69 69 2163 2 69 76
2165 2 76 69 2166 3 76 69 69 2167 4 76 69 69 69 2168 2 69 78 216a 2 78 69 216b 3 78 69 69 2171 2
69 69 2172 3 69 69 69 2173 2 69 76 2175 2 76 69 2176 3 76 69 69 2177 4 76 69 69 69 2178 2 69 78
217a 2 78 69 217b 3 78 69 69 2189 3 30 2044 33 222c 2 222b 222b 222d 3 222b 222b 222b 222f 2
222e 222e 2230 3 222e 222e 222e 2469 2 31 30 246a 2 31 31 246b 2 31 32 246c 2 31 33 246d 2 31 34
246e 2 31 35 246f 2 31 36 2470 2 31 37 2471 2 31 38 2472 2 31 39 2473 2 32 30 2474 3 28 31 29
2475 3 28 32 29 2476 3 28 33 29 2477 3 28 34 29 2478 3 28 35 29 2479 3 28 36 29 247a 3 28 37 29
247b 3 28 38 29 247c 3 28 39 29 247d 4 28 31 30 29 247e 4 28 31 31 29 247f 4 28 31 32 29 2480 4
28 31 33 29 2481 4 28 31 34 29 2482 4 28 31 35 29 2483 4 28 31 36 29 2484 4 28 31 37 29 2485 4
28 31 38 29 2486 4 28 31 39 29 2487 4 28 32 30 29 249c 3 28 61 29 249d 3 28 62 29 249e 3 28 63
29 249f 3 28 64 29 24a0 3 28 65 29 24a1 3 28 66 29 24a2 3 28 67 29 24a3 3 28 68 29 24a4 3 28 69
29 24a5 3 28 6a 29 24a6 3 28 6b 29 24a7 3 28 6c 29 24a8 3 28 6d 29 24a9 3 28 6e 29 24aa 3 28 6f
29 24ab 3 28 70 29 24ac 3 28 71 29 24ad 3 28 72 29 24ae 3 28 73 29 24af 3 28 74 29 24b0 3 28 75
29 24b1 3 28 76 29 24b2 3 28 77 29 24b3 3 28 78 29 24b4 3 28 79 29 24b5 3 28 7a 29 2a0c 4 222b
222b 222b 222b 2a74 3 3a 3a 3d 2a75 2 3d 3d 2a76 3 3d 3d 3d 2adc 2 2add 338 309b 2 20 3099 309c
2 20 309a 309f 2 3088 308a 30ff 2 30b3 30c8 3200 3 28 1100 29 3201 3 28 1102 29 3202 3 28 1103
29 3203 3 28 1105 29 3204 3 28 1106 29 3205 3 28 1107 29 3206 3 28 1109 29 3207 3 28 110b 29
3208 3 28 110c 29 3209 3 28 110e 29 320a 3 28 110f 29 320b 3 28 1110 29 320c 3 28 1111 29 320d 3
28 1112 29 320e 3 28 ac00 29 320f 3 28 b098 29 3210 3 28 b2e4 29 3211 3 28 b77c 29 3212 3 28
b9c8 29 3213 3 28 bc14 29 3214 3 28 c0ac 29 3215 3 28 c544 29 3216 3 28 c790 29 3217 3 28 cc28
29 3218 3 28 ce74 29 3219 3 28 d0c0 29 321a 3 28 d30c 29 321b 3 28 d558 29 321c 3 28 c8fc 29
321d 4 28 c624 c804 29 321e 4 28 c624 d6c4 29 3220 3 28 4e00 29 3221 3 28 4e8c 29 3222 3 28 4e09
29 3223 3 28 56db 29 3224 3 28 4e94 29 3225 3 28 516d 29 3226 3 28 4e03 29 3227 3 28 516b 29
3228 3 28 4e5d 29 3229 3 28 5341 29 322a 3 28 6708 29 322b 3 28 706b 29 322c 3 28 6c34 29 322d 3
28 6728 29 322e 3 28 91d1 29 322f 3 28 571f 29 3230 3 28 65e5 29 3231 3 28 682a 29 3232 3 28
6709 29 3233 3 28 793e 29 3234 3 28 540d 29 3235 3 28 7279 29 3236 3 28 8ca1 29 3237 3 28 795d
29 3238 3 28 52b4 29 3239 3 28 4ee3 29 323a 3 28 547c 29 323b 3 28 5b66 29 323c 3 28 76e3 29
323d 3 28 4f01 29 323e 3 28 8cc7 29 323f 3 28 5354 29 3240 3 28 796d 29 3241 3 28 4f11 29 3242 3
28 81ea 29 3243 3 28 81f3 29 3250 3 70 74 65 3251 2 32 31 3252 2 32 32 3253 2 32 33 3254 2 32 34
3255 2 32 35 3256 2 32 36 3257 2 32 37 3258 2 32 38 3259 2 32 39 325a 2 33 30 325b 2 33 31 325c
2 33 32 325d 2 33 33 325e 2 33 34 325f 2 33 35 327c 2 cc38 ace0 327d 2 c8fc c758 32b1 2 33 36
32b2 2 33 37 32b3 2 33 38 32b4 2 33 39 32b5 2 34 30 32b6 2 34 31 32b7 2 34 32 32b8 2 34 33 32b9
2 34 34 32ba 2 34 35 32bb 2 34 36 32bc 2 34 37 32bd 2 34 38 32be 2 34 39 32bf 2 35 30 32c0 2 31
6708 32c1 2 32 6708 32c2 2 33 6708 32c3 2 34 6708 32c4 2 35 6708 32c5 2 36 6708 32c6 2 37 6708
32c7 2 38 6708 32c8 2 39 6708 32c9 3 31 30 6708 32ca 3 31 31 6708 32cb 3 31 32 6708 32cc 2 68 67
32cd 3 65 72 67 32ce 2 65 76 32cf 3 6c 74 64 32ff 2 4ee4 548c 3300 4 30a2 30d1 30fc 30c8 3301 4
30a2 30eb 30d5 30a1 3302 4 30a2 30f3 30da 30a2 3303 3 30a2 30fc 30eb 3304 4 30a4 30cb 30f3 30b0
3305 3 30a4 30f3 30c1 3306 3 30a6 30a9 30f3 3307 5 30a8 30b9 30af 30fc 30c9 3308 4 30a8 30fc
30ab 30fc 3309 3 30aa 30f3 30b9 330a 3 30aa 30fc 30e0 330b 3 30ab 30a4 30ea 330c 4 30ab 30e9
30c3 30c8 330d 4 30ab 30ed 30ea 30fc 330e 3 30ac 30ed 30f3 330f 3 30ac 30f3 30de 3310 2 30ae
30ac 3311 3 30ae 30cb 30fc 3312 4 30ad 30e5 30ea 30fc 3313 4 30ae 30eb 30c0 30fc 3314 2 30ad
30ed 3315 5 30ad 30ed 30b0 30e9 30e0 3316 6 30ad 30ed 30e1 30fc 30c8 30eb 3317 5 30ad 30ed 30ef
30c3 30c8 3318 3 30b0 30e9 30e0 3319 5 30b0 30e9 30e0 30c8 30f3 331a 5 30af 30eb 30bc 30a4 30ed
331b 4 30af 30ed 30fc 30cd 331c 3 30b1 30fc 30b9 331d 3 30b3 30eb 30ca 331e 3 30b3 30fc 30dd
331f 4 30b5 30a4 30af 30eb 3320 5 30b5 30f3 30c1 30fc 30e0 3321 4 30b7 30ea 30f3 30b0 3322 3
30bb 30f3 30c1 3323 3 30bb 30f3 30c8 3324 3 30c0 30fc 30b9 3325 2 30c7 30b7 3326 2 30c9 30eb
3327 2 30c8 30f3 3328 2 30ca 30ce 3329 3 30ce 30c3 30c8 332a 3 30cf 30a4 30c4 332b 5 30d1 30fc
30bb 30f3 30c8 332c 3 30d1 30fc 30c4 332d 4 30d0 30fc 30ec 30eb 332e 5 30d4 30a2 30b9 30c8 30eb
332f 3 30d4 30af 30eb 3330 2 30d4 30b3 3331 2 30d3 30eb 3332 5 30d5 30a1 30e9 30c3 30c9 3333 4
30d5 30a3 30fc 30c8 3334 5 30d6 30c3 30b7 30a7 30eb 3335 3 30d5 30e9 30f3 3336 5 30d8 30af 30bf
30fc 30eb 3337 2 30da 30bd 3338 3 30da 30cb 30d2 3339 3 30d8 30eb 30c4 333a 3 30da 30f3 30b9
333b 3 30da 30fc 30b8 333c 3 30d9 30fc 30bf 333d 4 30dd 30a4 30f3 30c8 333e 3 30dc 30eb 30c8
333f 2 30db 30f3 3340 3 30dd 30f3 30c9 3341 3 30db 30fc 30eb 3342 3 30db 30fc 30f3 3343 4 30de
30a4 30af 30ed 3344 3 30de 30a4 30eb 3345 3 30de 30c3 30cf 3346 3 30de 30eb 30af 3347 5 30de
30f3 30b7 30e7 30f3 3348 4 30df 30af 30ed 30f3 3349 2 30df 30ea 334a 5 30df 30ea 30d0 30fc 30eb
334b 2 30e1 30ac 334c 4 30e1 30ac 30c8 30f3 334d 4 30e1 30fc 30c8 30eb 334e 3 30e4 30fc 30c9
334f 3 30e4 30fc 30eb 3350 3 30e6 30a2 30f3 3351 4 30ea 30c3 30c8 30eb 3352 2 30ea 30e9 3353 3
30eb 30d4 30fc 3354 4 30eb 30fc 30d6 30eb 3355 2 30ec 30e0 3356 5 30ec 30f3 30c8 30b2 30f3 3357
3 30ef 30c3 30c8 3358 2 30 70b9 3359 2 31 70b9 335a 2 32 70b9 335b 2 33 70b9 335c 2 34 70b9 335d
2 35 70b9 335e 2 36 70b9 335f 2 37 70b9 3360 2 38 70b9 3361 2 39 70b9 3362 3 31 30 70b9 3363 3
31 31 70b9 3364 3 31 32 70b9 3365 3 31 33 70b9 3366 3 31 34 70b9 3367 3 31 35 70b9 3368 3 31 36
70b9 3369 3 31 37 70b9 336a 3 31 38 70b9 336b 3 31 39 70b9 336c 3 32 30 70b9 336d 3 32 31 70b9
336e 3 32 32 70b9 336f 3 32 33 70b9 3370 3 32 34 70b9 3371 3 68 70 61 3372 2 64 61 3373 2 61 75
3374 3 62 61 72 3375 2 6f 76 3376 2 70 63 3377 2 64 6d 3378 3 64 6d 32 3379 3 64 6d 33 337a 2 69
75 337b 2 5e73 6210 337c 2 662d 548c 337d 2 5927 6b63 337e 2 660e 6cbb 337f 4 682a 5f0f 4f1a
793e 3380 2 70 61 3381 2 6e 61 3382 2 3bc 61 3383 2 6d 61 3384 2 6b 61 3385 2 6b 62 3386 2 6d 62
3387 2 67 62 3388 3 63 61 6c 3389 4 6b 63 61 6c 338a 2 70 66 338b 2 6e 66 338c 2 3bc 66 338d 2
3bc 67 338e 2 6d 67 338f 2 6b 67 3390 2 68 7a 3391 3 6b 68 7a 3392 3 6d 68 7a 3393 3 67 68 7a
3394 3 74 68 7a 3395 2 3bc 6c 3396 2 6d 6c 3397 2 64 6c 3398 2 6b 6c 3399 2 66 6d 339a 2 6e 6d
339b 2 3bc 6d 339c 2 6d 6d 339d 2 63 6d 339e 2 6b 6d 339f 3 6d 6d 32 33a0 3 63 6d 32 33a1 2 6d
32 33a2 3 6b 6d 32 33a3 3 6d 6d 33 33a4 3 63 6d 33 33a5 2 6d 33 33a6 3 6b 6d 33 33a7 3 6d 2215
73 33a8 4 6d 2215 73 32 33a9 2 70 61 33aa 3 6b 70 61 33ab 3 6d 70 61 33ac 3 67 70 61 33ad 3 72
61 64 33ae 5 72 61 64 2215 73 33af 6 72 61 64 2215 73 32 33b0 2 70 73 33b1 2 6e 73 33b2 2 3bc 73
33b3 2 6d 73 33b4 2 70 76 33b5 2 6e 76 33b6 2 3bc 76 33b7 2 6d 76 33b8 2 6b 76 33b9 2 6d 76 33ba
2 70 77 33bb 2 6e 77 33bc 2 3bc 77 33bd 2 6d 77 33be 2 6b 77 33bf 2 6d 77 33c0 2 6b 3c9 33c1 2
6d 3c9 33c3 2 62 71 33c4 2 63 63 33c5 2 63 64 33c6 4 63 2215 6b 67 33c8 2 64 62 33c9 2 67 79
33ca 2 68 61 33cb 2 68 70 33cc 2 69 6e 33cd 2 6b 6b 33ce 2 6b 6d 33cf 2 6b 74 33d0 2 6c 6d 33d1
2 6c 6e 33d2 3 6c 6f 67 33d3 2 6c 78 33d4 2 6d 62 33d5 3 6d 69 6c 33d6 3 6d 6f 6c 33d7 2 70 68
33d9 3 70 70 6d 33da 2 70 72 33db 2 73 72 33dc 2 73 76 33dd 2 77 62 33de 3 76 2215 6d 33df 3 61
2215 6d 33e0 2 31 65e5 33e1 2 32 65e5 33e2 2 33 65e5 33e3 2 34 65e5 33e4 2 35 65e5 33e5 2 36
65e5 33e6 2 37 65e5 33e7 2 38 65e5 33e8 2 39 65e5 33e9 3 31 30 65e5 33ea 3 31 31 65e5 33eb 3 31
32 65e5 33ec 3 31 33 65e5 33ed 3 31 34 65e5 33ee 3 31 35 65e5 33ef 3 31 36 65e5 33f0 3 31 37
65e5 33f1 3 31 38 65e5 33f2 3 31 39 65e5 33f3 3 32 30 65e5 33f4 3 32 31 65e5 33f5 3 32 32 65e5
33f6 3 32 33 65e5 33f7 3 32 34 65e5 33f8 3 32 35 65e5 33f9 3 32 36 65e5 33fa 3 32 37 65e5 33fb 3
32 38 65e5 33fc 3 32 39 65e5 33fd 3 33 30 65e5 33fe 3 33 31 65e5 33ff 3 67 61 6c fb00 2 66 66
fb01 2 66 69 fb02 2 66 6c fb03 3 66 66 69 fb04 3 66 66 6c fb05 2 73 74 fb06 2 73 74 fb13 2 574
576 fb14 2 574 565 fb15 2 574 56b fb16 2 57e 576 fb17 2 574 56d fb1d 2 5d9 5b4 fb1f 2 5f2 5b7
fb2a 2 5e9 5c1 fb2b 2 5e9 5c2 fb2c 3 5e9 5bc 5c1 fb2d 3 5e9 5bc 5c2 fb2e 2 5d0 5b7 fb2f 2 5d0
5b8 fb30 2 5d0 5bc fb31 2 5d1 5bc fb32 2 5d2 5bc fb33 2 5d3 5bc fb34 2 5d4 5bc fb35 2 5d5 5bc
fb36 2 5d6 5bc fb38 2 5d8 5bc fb39 2 5d9 5bc fb3a 2 5da 5bc fb3b 2 5db 5bc fb3c 2 5dc 5bc fb3e 2
5de 5bc fb40 2 5e0 5bc fb41 2 5e1 5bc fb43 2 5e3 5bc fb44 2 5e4 5bc fb46 2 5e6 5bc fb47 2 5e7
5bc fb48 2 5e8 5bc fb49 2 5e9 5bc fb4a 2 5ea 5bc fb4b 2 5d5 5b9 fb4c 2 5d1 5bf fb4d 2 5db 5bf
fb4e 2 5e4 5bf fb4f 2 5d0 5dc fbdd 2 6c7 674 fbea 2 626 627 fbeb 2 626 627 fbec 2 626 6d5 fbed 2
626 6d5 fbee 2 626 648 fbef 2 626 648 fbf0 2 626 6c7 fbf1 2 626 6c7 fbf2 2 626 6c6 fbf3 2 626
6c6 fbf4 2 626 6c8 fbf5 2 626 6c8 fbf6 2 626 6d0 fbf7 2 626 6d0 fbf8 2 626 6d0 fbf9 2 626 649
fbfa 2 626 649 fbfb 2 626 649 fc00 2 626 62c fc01 2 626 62d fc02 2 626 645 fc03 2 626 649 fc04 2
626 64a fc05 2 628 62c fc06 2 628 62d fc07 2 628 62e fc08 2 628 645 fc09 2 628 649 fc0a 2 628
64a fc0b 2 62a 62c fc0c 2 62a 62d fc0d 2 62a 62e fc0e 2 62a 645 fc0f 2 62a 649 fc10 2 62a 64a
fc11 2 62b 62c fc12 2 62b 645 fc13 2 62b 649 fc14 2 62b 64a fc15 2 62c 62d fc16 2 62c 645 fc17 2
62d 62c fc18 2 62d 645 fc19 2 62e 62c fc1a 2 62e 62d fc1b 2 62e 645 fc1c 2 633 62c fc1d 2 633
62d fc1e 2 633 62e fc1f 2 633 645 fc20 2 635 62d fc21 2 635 645 fc22 2 636 62c fc23 2 636 62d
fc24 2 636 62e fc25 2 636 645 fc26 2 637 62d fc27 2 637 645 fc28 2 638 645 fc29 2 639 62c fc2a 2
639 645 fc2b 2 63a 62c fc2c 2 63a 645 fc2d 2 641 62c fc2e 2 641 62d fc2f 2 641 62e fc30 2 641
645 fc31 2 641 649 fc32 2 641 64a fc33 2 642 62d fc34 2 642 645 fc35 2 642 649 fc36 2 642 64a
fc37 2 643 627 fc38 2 643 62c fc39 2 643 62d fc3a 2 643 62e fc3b 2 643 644 fc3c 2 643 645 fc3d 2
643 649 fc3e 2 643 64a fc3f 2 644 62c fc40 2 644 62d fc41 2 644 62e fc42 2 644 645 fc43 2 644
649 fc44 2 644 64a fc45 2 645 62c fc46 2 645 62d fc47 2 645 62e fc48 2 645 645 fc49 2 645 649
fc4a 2 645 64a fc4b 2 646 62c fc4c 2 646 62d fc4d 2 646 62e fc4e 2 646 645 fc4f 2 646 649 fc50 2
646 64a fc51 2 647 62c fc52 2 647 645 fc53 2 647 649 fc54 2 647 64a fc55 2 64a 62c fc56 2 64a
62d fc57 2 64a 62e fc58 2 64a 645 fc59 2 64a 649 fc5a 2 64a 64a fc5b 2 630 670 fc5c 2 631 670
fc5d 2 649 670 fc5e 3 20 64c 651 fc5f 3 20 64d 651 fc60 3 20 64e 651 fc61 3 20 64f 651 fc62 3 20
650 651 fc63 3 20 651 670 fc64 2 626 631 fc65 2 626 632 fc66 2 626 645 fc67 2 626 646 fc68 2 626
649 fc69 2 626 64a fc6a 2 628 631 fc6b 2 628 632 fc6c 2 628 645 fc6d 2 628 646 fc6e 2 628 649
fc6f 2 628 64a fc70 2 62a 631 fc71 2 62a 632 fc72 2 62a 645 fc73 2 62a 646 fc74 2 62a 649 fc75 2
62a 64a fc76 2 62b 631 fc77 2 62b 632 fc78 2 62b 645 fc79 2 62b 646 fc7a 2 62b 649 fc7b 2 62b
64a fc7c 2 641 649 fc7d 2 641 64a fc7e 2 642 649 fc7f 2 642 64a fc80 2 643 627 fc81 2 643 644
fc82 2 643 645 fc83 2 643 649 fc84 2 643 64a fc85 2 644 645 fc86 2 644 649 fc87 2 644 64a fc88 2
645 627 fc89 2 645 645 fc8a 2 646 631 fc8b 2 646 632 fc8c 2 646 645 fc8d 2 646 646 fc8e 2 646
649 fc8f 2 646 64a fc90 2 649 670 fc91 2 64a 631 fc92 2 64a 632 fc93 2 64a 645 fc94 2 64a 646
fc95 2 64a 649 fc96 2 64a 64a fc97 2 626 62c fc98 2 626 62d fc99 2 626 62e fc9a 2 626 645 fc9b 2
626 647 fc9c 2 628 62c fc9d 2 628 62d fc9e 2 628 62e fc9f 2 628 645 fca0 2 628 647 fca1 2 62a
62c fca2 2 62a 62d fca3 2 62a 62e fca4 2 62a 645 fca5 2 62a 647 fca6 2 62b 645 fca7 2 62c 62d
fca8 2 62c 645 fca9 2 62d 62c fcaa 2 62d 645 fcab 2 62e 62c fcac 2 62e 645 fcad 2 633 62c fcae 2
633 62d fcaf 2 633 62e fcb0 2 633 645 fcb1 2 635 62d fcb2 2 635 62e fcb3 2 635 645 fcb4 2 636
62c fcb5 2 636 62d fcb6 2 636 62e fcb7 2 636 645 fcb8 2 637 62d fcb9 2 638 645 fcba 2 639 62c
fcbb 2 639 645 fcbc 2 63a 62c fcbd 2 63a 645 fcbe 2 641 62c fcbf 2 641 62d fcc0 2 641 62e fcc1 2
641 645 fcc2 2 642 62d fcc3 2 642 645 fcc4 2 643 62c fcc5 2 643 62d fcc6 2 643 62e fcc7 2 643
644 fcc8 2 643 645 fcc9 2 644 62c fcca 2 644 62d fccb 2 644 62e fccc 2 644 645 fccd 2 644 647
fcce 2 645 62c fccf 2 645 62d fcd0 2 645 62e fcd1 2 645 645 fcd2 2 646 62c fcd3 2 646 62d fcd4 2
646 62e fcd5 2 646 645 fcd6 2 646 647 fcd7 2 647 62c fcd8 2 647 645 fcd9 2 647 670 fcda 2 64a
62c fcdb 2 64a 62d fcdc 2 64a 62e fcdd 2 64a 645 fcde 2 64a 647 fcdf 2 626 645 fce0 2 626 647
fce1 2 628 645 fce2 2 628 647 fce3 2 62a 645 fce4 2 62a 647 fce5 2 62b 645 fce6 2 62b 647 fce7 2
633 645 fce8 2 633 647 fce9 2 634 645 fcea 2 634 647 fceb 2 643 644 fcec 2 643 645 fced 2 644
645 fcee 2 646 645 fcef 2 646 647 fcf0 2 64a 645 fcf1 2 64a 647 fcf2 3 640 64e 651 fcf3 3 640
64f 651 fcf4 3 640 650 651 fcf5 2 637 649 fcf6 2 637 64a fcf7 2 639 649 fcf8 2 639 64a fcf9 2
63a 649 fcfa 2 63a 64a fcfb 2 633 649 fcfc 2 633 64a fcfd 2 634 649 fcfe 2 634 64a fcff 2 62d
649 fd00 2 62d 64a fd01 2 62c 649 fd02 2 62c 64a fd03 2 62e 649 fd04 2 62e 64a fd05 2 635 649
fd06 2 635 64a fd07 2 636 649 fd08 2 636 64a fd09 2 634 62c fd0a 2 634 62d fd0b 2 634 62e fd0c 2
634 645 fd0d 2 634 631 fd0e 2 633 631 fd0f 2 635 631 fd10 2 636 631 fd11 2 637 649 fd12 2 637
64a fd13 2 639 649 fd14 2 639 64a fd15 2 63a 649 fd16 2 63a 64a fd17 2 633 649 fd18 2 633 64a
fd19 2 634 649 fd1a 2 634 64a fd1b 2 62d 649 fd1c 2 62d 64a fd1d 2 62c 649 fd1e 2 62c 64a fd1f 2
62e 649 fd20 2 62e 64a fd21 2 635 649 fd22 2 635 64a fd23 2 636 649 fd24 2 636 64a fd25 2 634
62c fd26 2 634 62d fd27 2 634 62e fd28 2 634 645 fd29 2 634 631 fd2a 2 633 631 fd2b 2 635 631
fd2c 2 636 631 fd2d 2 634 62c fd2e 2 634 62d fd2f 2 634 62e fd30 2 634 645 fd31 2 633 647 fd32 2
634 647 fd33 2 637 645 fd34 2 633 62c fd35 2 633 62d fd36 2 633 62e fd37 2 634 62c fd38 2 634
62d fd39 2 634 62e fd3a 2 637 645 fd3b 2 638 645 fd3c 2 627 64b fd3d 2 627 64b fd50 3 62a 62c
645 fd51 3 62a 62d 62c fd52 3 62a 62d 62c fd53 3 62a 62d 645 fd54 3 62a 62e 645 fd55 3 62a 645
62c fd56 3 62a 645 62d fd57 3 62a 645 62e fd58 3 62c 645 62d fd59 3 62c 645 62d fd5a 3 62d 645
64a fd5b 3 62d 645 649 fd5c 3 633 62d 62c fd5d 3 633 62c 62d fd5e 3 633 62c 649 fd5f 3 633 645
62d fd60 3 633 645 62d fd61 3 633 645 62c fd62 3 633 645 645 fd63 3 633 645 645 fd64 3 635 62d
62d fd65 3 635 62d 62d fd66 3 635 645 645 fd67 3 634 62d 645 fd68 3 634 62d 645 fd69 3 634 62c
64a fd6a 3 634 645 62e fd6b 3 634 645 62e fd6c 3 634 645 645 fd6d 3 634 645 645 fd6e 3 636 62d
649 fd6f 3 636 62e 645 fd70 3 636 62e 645 fd71 3 637 645 62d fd72 3 637 645 62d fd73 3 637 645
645 fd74 3 637 645 64a fd75 3 639 62c 645 fd76 3 639 645 645 fd77 3 639 645 645 fd78 3 639 645
649 fd79 3 63a 645 645 fd7a 3 63a 645 64a fd7b 3 63a 645 649 fd7c 3 641 62e 645 fd7d 3 641 62e
645 fd7e 3 642 645 62d fd7f 3 642 645 645 fd80 3 644 62d 645 fd81 3 644 62d 64a fd82 3 644 62d
649 fd83 3 644 62c 62c fd84 3 644 62c 62c fd85 3 644 62e 645 fd86 3 644 62e 645 fd87 3 644 645
62d fd88 3 644 645 62d fd89 3 645 62d 62c fd8a 3 645 62d 645 fd8b 3 645 62d 64a fd8c 3 645 62c
62d fd8d 3 645 62c 645 fd8e 3 645 62e 62c fd8f 3 645 62e 645 fd92 3 645 62c 62e fd93 3 647 645
62c fd94 3 647 645 645 fd95 3 646 62d 645 fd96 3 646 62d 649 fd97 3 646 62c 645 fd98 3 646 62c
645 fd99 3 646 62c 649 fd9a 3 646 645 64a fd9b 3 646 645 649 fd9c 3 64a 645 645 fd9d 3 64a 645
645 fd9e 3 628 62e 64a fd9f 3 62a 62c 64a fda0 3 62a 62c 649 fda1 3 62a 62e 64a fda2 3 62a 62e
649 fda3 3 62a 645 64a fda4 3 62a 645 649 fda5 3 62c 645 64a fda6 3 62c 62d 649 fda7 3 62c 645
649 fda8 3 633 62e 649 fda9 3 635 62d 64a fdaa 3 634 62d 64a fdab 3 636 62d 64a fdac 3 644 62c
64a fdad 3 644 645 64a fdae 3 64a 62d 64a fdaf 3 64a 62c 64a fdb0 3 64a 645 64a fdb1 3 645 645
64a fdb2 3 642 645 64a fdb3 3 646 62d 64a fdb4 3 642 645 62d fdb5 3 644 62d 645 fdb6 3 639 645
64a fdb7 3 643 645 64a fdb8 3 646 62c 62d fdb9 3 645 62e 64a fdba 3 644 62c 645 fdbb 3 643 645
645 fdbc 3 644 62c 645 fdbd 3 646 62c 62d fdbe 3 62c 62d 64a fdbf 3 62d 62c 64a fdc0 3 645 62c
64a fdc1 3 641 645 64a fdc2 3 628 62d 64a fdc3 3 643 645 645 fdc4 3 639 62c 645 fdc5 3 635 645
645 fdc6 3 633 62e 64a fdc7 3 646 62c 64a fdf0 3 635 644 6d2 fdf1 3 642 644 6d2 fdf2 4 627 644
644 647 fdf3 4 627 643 628 631 fdf4 4 645 62d 645 62f fdf5 4 635 644 639 645 fdf6 4 631 633 648
644 fdf7 4 639 644 64a 647 fdf8 4 648 633 644 645 fdf9 3 635 644 649 fdfa 12 635 644 649 20 627
644 644 647 20 639 644 64a 647 20 648 633 644 645 fdfb 8 62c 644 20 62c 644 627 644 647 fdfc 4
631 6cc 627 644 fe49 2 20 305 fe4a 2 20 305 fe4b 2 20 305 fe4c 2 20 305 fe70 2 20 64b fe71 2 640
64b fe72 2 20 64c fe74 2 20 64d fe76 2 20 64e fe77 2 640 64e fe78 2 20 64f fe79 2 640 64f fe7a 2
20 650 fe7b 2 640 650 fe7c 2 20 651 fe7d 2 640 651 fe7e 2 20 652 fe7f 2 640 652 fef5 2 644 622
fef6 2 644 622 fef7 2 644 623 fef8 2 644 623 fef9 2 644 625 fefa 2 644 625 fefb 2 644 627 fefc 2
644 627 ffe3 2 20 304 1d15e 2 1d157 1d165 1d15f 2 1d158 1d165 1d160 3 1d158 1d165 1d16e 1d161 3
1d158 1d165 1d16f 1d162 3 1d158 1d165 1d170 1d163 3 1d158 1d165 1d171 1d164 3 1d158 1d165 1d172
1d1bb 2 1d1b9 1d165 1d1bc 2 1d1ba 1d165 1d1bd 3 1d1b9 1d165 1d16e 1d1be 3 1d1ba 1d165 1d16e
1d1bf 3 1d1b9 1d165 1d16f 1d1c0 3 1d1ba 1d165 1d16f 1f101 2 30 2c 1f102 2 31 2c 1f103 2 32 2c
1f104 2 33 2c 1f105 2 34 2c 1f106 2 35 2c 1f107 2 36 2c 1f108 2 37 2c 1f109 2 38 2c 1f10a 2 39
2c 1f110 3 28 61 29 1f111 3 28 62 29 1f112 3 28 63 29 1f113 3 28 64 29 1f114 3 28 65 29 1f115 3
28 66 29 1f116 3 28 67 29 1f117 3 28 68 29 1f118 3 28 69 29 1f119 3 28 6a 29 1f11a 3 28 6b 29
1f11b 3 28 6c 29 1f11c 3 28 6d 29 1f11d 3 28 6e 29 1f11e 3 28 6f 29 1f11f 3 28 70 29 1f120 3 28
71 29 1f121 3 28 72 29 1f122 3 28 73 29 1f123 3 28 74 29 1f124 3 28 75 29 1f125 3 28 76 29 1f126
3 28 77 29 1f127 3 28 78 29 1f128 3 28 79 29 1f129 3 28 7a 29 1f12a 3 3014 73 3015 1f12d 2 63 64
1f12e 2 77 7a 1f14a 2 68 76 1f14b 2 6d 76 1f14c 2 73 64 1f14d 2 73 73 1f14e 3 70 70 76 1f14f 2
77 63 1f16a 2 6d 63 1f16b 2 6d 64 1f16c 2 6d 72 1f190 2 64 6a 1f200 2 307b 304b 1f201 2 30b3
30b3 1f240 3 3014 672c 3015 1f241 3 3014 4e09 3015 1f242 3 3014 4e8c 3015 1f243 3 3014 5b89 3015
1f244 3 3014 70b9 3015 1f245 3 3014 6253 3015 1f246 3 3014 76d7 3015 1f247 3 3014 52dd 3015
1f248 3 3014 6557 3015"

end SettingsBroker.Uri.Domain
