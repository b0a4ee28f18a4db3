/-
# Table of writing properties

The direction in which characters are written, how they join with their
neighbours, and which of them are marks, written as numbers in base sixteen.
-/

namespace SettingsBroker.Text.Script

/-- Runs of characters with one direction other than left to right: first character,
length and direction. -/
def directionTable : String := "
0 9 9 9 5 b e e 9 1c 5 b 21 2 8 23 3 7 26 5 8 2b 1 5 2c 1 6 2d 1 5 2e 2 6 30 a 4 3a 1 6 3b 6 8
5b 6 8 7b 4 8 7f 6 9 85 1 b 86 1a 9 a0 1 6 a1 1 8 a2 4 7 a6 4 8 ab 2 8 ad 1 9 ae 2 8 b0 2 7 b2 2
4 b4 1 8 b6 3 8 b9 1 4 bb 5 8 d7 1 8 f7 1 8 2b9 2 8 2c2 e 8 2d2 e 8 2e5 9 8 2ef 11 8 300 70 a
374 2 8 37e 1 8 384 2 8 387 1 8 3f6 1 8 483 7 a 58a 1 8 58d 2 8 58f 1 7 591 2d a 5be 1 1 5bf 1 a
5c0 1 1 5c1 2 a 5c3 1 1 5c4 2 a 5c6 1 1 5c7 1 a 5d0 1b 1 5ef 6 1 600 6 3 606 2 8 608 1 2 609 2 7
60b 1 2 60c 1 6 60d 1 2 60e 2 8 610 b a 61b 30 2 64b 15 a 660 a 3 66a 1 7 66b 2 3 66d 3 2 670 1
a 671 65 2 6d6 7 a 6dd 1 3 6de 1 8 6df 6 a 6e5 2 2 6e7 2 a 6e9 1 8 6ea 4 a 6ee 2 2 6f0 a 4 6fa
14 2 70f 2 2 711 1 a 712 1e 2 730 1b a 74d 59 2 7a6 b a 7b1 1 2 7c0 2b 1 7eb 9 a 7f4 2 1 7f6 4 8
7fa 1 1 7fd 1 a 7fe 18 1 816 4 a 81a 1 1 81b 9 a 824 1 1 825 3 a 828 1 1 829 5 a 830 f 1 840 19
1 859 3 a 85e 1 1 860 b 2 870 1f 2 890 2 3 898 8 a 8a0 2a 2 8ca 18 a 8e2 1 3 8e3 20 a 93a 1 a
93c 1 a 941 8 a 94d 1 a 951 7 a 962 2 a 981 1 a 9bc 1 a 9c1 4 a 9cd 1 a 9e2 2 a 9f2 2 7 9fb 1 7
9fe 1 a a01 2 a a3c 1 a a41 2 a a47 2 a a4b 3 a a51 1 a a70 2 a a75 1 a a81 2 a abc 1 a ac1 5 a
ac7 2 a acd 1 a ae2 2 a af1 1 7 afa 6 a b01 1 a b3c 1 a b3f 1 a b41 4 a b4d 1 a b55 2 a b62 2 a
b82 1 a bc0 1 a bcd 1 a bf3 6 8 bf9 1 7 bfa 1 8 c00 1 a c04 1 a c3c 1 a c3e 3 a c46 3 a c4a 4 a
c55 2 a c62 2 a c78 7 8 c81 1 a cbc 1 a ccc 2 a ce2 2 a d00 2 a d3b 2 a d41 4 a d4d 1 a d62 2 a
d81 1 a dca 1 a dd2 3 a dd6 1 a e31 1 a e34 7 a e3f 1 7 e47 8 a eb1 1 a eb4 9 a ec8 6 a f18 2 a
f35 1 a f37 1 a f39 1 a f3a 4 8 f71 e a f80 5 a f86 2 a f8d b a f99 24 a fc6 1 a 102d 4 a 1032 6
a 1039 2 a 103d 2 a 1058 2 a 105e 3 a 1071 4 a 1082 1 a 1085 2 a 108d 1 a 109d 1 a 135d 3 a 1390
a 8 1400 1 8 1680 1 b 169b 2 8 1712 3 a 1732 2 a 1752 2 a 1772 2 a 17b4 2 a 17b7 7 a 17c6 1 a
17c9 b a 17db 1 7 17dd 1 a 17f0 a 8 1800 b 8 180b 3 a 180e 1 9 180f 1 a 1885 2 a 18a9 1 a 1920 3
a 1927 2 a 1932 1 a 1939 3 a 1940 1 8 1944 2 8 19de 22 8 1a17 2 a 1a1b 1 a 1a56 1 a 1a58 7 a
1a60 1 a 1a62 1 a 1a65 8 a 1a73 a a 1a7f 1 a 1ab0 1f a 1b00 4 a 1b34 1 a 1b36 5 a 1b3c 1 a 1b42
1 a 1b6b 9 a 1b80 2 a 1ba2 4 a 1ba8 2 a 1bab 3 a 1be6 1 a 1be8 2 a 1bed 1 a 1bef 3 a 1c2c 8 a
1c36 2 a 1cd0 3 a 1cd4 d a 1ce2 7 a 1ced 1 a 1cf4 1 a 1cf8 2 a 1dc0 40 a 1fbd 1 8 1fbf 3 8 1fcd
3 8 1fdd 3 8 1fed 3 8 1ffd 2 8 2000 b b 200b 3 9 200f 1 1 2010 18 8 2028 7 b 202f 1 6 2030 5 7
2035 f 8 2044 1 6 2045 1a 8 205f 1 b 2060 5 9 2066 4 b 206a 6 9 2070 1 4 2074 6 4 207a 2 5 207c
3 8 2080 a 4 208a 2 5 208c 3 8 20a0 21 7 20d0 21 a 2100 2 8 2103 4 8 2108 2 8 2114 1 8 2116 3 8
211e 6 8 2125 1 8 2127 1 8 2129 1 8 212e 1 7 213a 2 8 2140 5 8 214a 4 8 2150 10 8 2189 3 8 2190
82 8 2212 1 5 2213 1 7 2214 122 8 237b 1a 8 2396 91 8 2440 b 8 2460 28 8 2488 14 4 24ea 1c2 8
26ad 153 8 2900 274 8 2b76 20 8 2b97 69 8 2ce5 6 8 2cef 3 a 2cf9 7 8 2d7f 1 a 2de0 20 a 2e00 5e
8 2e80 1a 8 2e9b 59 8 2f00 d6 8 2ff0 c 8 3000 1 b 3001 4 8 3008 19 8 302a 4 a 3030 1 8 3036 2 8
303d 3 8 3099 2 a 309b 2 8 30a0 1 8 30fb 1 8 31c0 24 8 321d 2 8 3250 10 8 327c 3 8 32b1 f 8 32cc
4 8 3377 4 8 33de 2 8 33ff 1 8 4dc0 40 8 a490 37 8 a60d 3 8 a66f 4 a a673 1 8 a674 a a a67e 2 8
a69e 2 a a6f0 2 a a700 22 8 a788 1 8 a802 1 a a806 1 a a80b 1 a a825 2 a a828 4 8 a82c 1 a a838
2 7 a874 4 8 a8c4 2 a a8e0 12 a a8ff 1 a a926 8 a a947 b a a980 3 a a9b3 1 a a9b6 4 a a9bc 2 a
a9e5 1 a aa29 6 a aa31 2 a aa35 2 a aa43 1 a aa4c 1 a aa7c 1 a aab0 1 a aab2 3 a aab7 2 a aabe 2
a aac1 1 a aaec 2 a aaf6 1 a ab6a 2 8 abe5 1 a abe8 1 a abed 1 a fb1d 1 1 fb1e 1 a fb1f a 1 fb29
1 5 fb2a d 1 fb38 5 1 fb3e 1 1 fb40 2 1 fb43 2 1 fb46 a 1 fb50 73 2 fbd3 16b 2 fd3e 12 8 fd50 40
2 fd92 36 2 fdcf 1 8 fdf0 d 2 fdfd 3 8 fe00 10 a fe10 a 8 fe20 10 a fe30 20 8 fe50 1 6 fe51 1 8
fe52 1 6 fe54 1 8 fe55 1 6 fe56 9 8 fe5f 1 7 fe60 2 8 fe62 2 5 fe64 3 8 fe68 1 8 fe69 2 7 fe6b 1
8 fe70 5 2 fe76 87 2 feff 1 9 ff01 2 8 ff03 3 7 ff06 5 8 ff0b 1 5 ff0c 1 6 ff0d 1 5 ff0e 2 6
ff10 a 4 ff1a 1 6 ff1b 6 8 ff3b 6 8 ff5b b 8 ffe0 2 7 ffe2 3 8 ffe5 2 7 ffe8 7 8 fff9 5 8 10101
1 8 10140 4d 8 10190 d 8 101a0 1 8 101fd 1 a 102e0 1 a 102e1 1b 4 10376 5 a 10800 6 1 10808 1 1
1080a 2c 1 10837 2 1 1083c 1 1 1083f 17 1 10857 48 1 108a7 9 1 108e0 13 1 108f4 2 1 108fb 21 1
1091f 1 8 10920 1a 1 1093f 1 1 10980 38 1 109bc 14 1 109d2 2f 1 10a01 3 a 10a05 2 a 10a0c 4 a
10a10 4 1 10a15 3 1 10a19 1d 1 10a38 3 a 10a3f 1 a 10a40 9 1 10a50 9 1 10a60 40 1 10ac0 25 1
10ae5 2 a 10aeb c 1 10b00 36 1 10b39 7 8 10b40 16 1 10b58 1b 1 10b78 1a 1 10b99 4 1 10ba9 7 1
10c00 49 1 10c80 33 1 10cc0 33 1 10cfa 6 1 10d00 24 2 10d24 4 a 10d30 a 3 10e60 1f 3 10e80 2a 1
10eab 2 a 10ead 1 1 10eb0 2 1 10f00 28 1 10f30 16 2 10f46 b a 10f51 9 2 10f70 12 1 10f82 4 a
10f86 4 1 10fb0 1c 1 10fe0 17 1 11001 1 a 11038 f a 11052 14 8 11070 1 a 11073 2 a 1107f 3 a
110b3 4 a 110b9 2 a 110c2 1 a 11100 3 a 11127 5 a 1112d 8 a 11173 1 a 11180 2 a 111b6 9 a 111c9
4 a 111cf 1 a 1122f 3 a 11234 1 a 11236 2 a 1123e 1 a 112df 1 a 112e3 8 a 11300 2 a 1133b 2 a
11340 1 a 11366 7 a 11370 5 a 11438 8 a 11442 3 a 11446 1 a 1145e 1 a 114b3 6 a 114ba 1 a 114bf
2 a 114c2 2 a 115b2 4 a 115bc 2 a 115bf 2 a 115dc 2 a 11633 8 a 1163d 1 a 1163f 2 a 11660 d 8
116ab 1 a 116ad 1 a 116b0 6 a 116b7 1 a 1171d 3 a 11722 4 a 11727 5 a 1182f 9 a 11839 2 a 1193b
2 a 1193e 1 a 11943 1 a 119d4 4 a 119da 2 a 119e0 1 a 11a01 6 a 11a09 2 a 11a33 6 a 11a3b 4 a
11a47 1 a 11a51 6 a 11a59 3 a 11a8a d a 11a98 2 a 11c30 7 a 11c38 6 a 11c92 16 a 11caa 7 a 11cb2
2 a 11cb5 2 a 11d31 6 a 11d3a 1 a 11d3c 2 a 11d3f 7 a 11d47 1 a 11d90 2 a 11d95 1 a 11d97 1 a
11ef3 2 a 11fd5 8 8 11fdd 4 7 11fe1 11 8 16af0 5 a 16b30 7 a 16f4f 1 a 16f8f 4 a 16fe2 1 8 16fe4
1 a 1bc9d 2 a 1bca0 4 9 1cf00 2e a 1cf30 17 a 1d167 3 a 1d173 8 9 1d17b 8 a 1d185 7 a 1d1aa 4 a
1d1e9 2 8 1d200 42 8 1d242 3 a 1d245 1 8 1d300 57 8 1d6db 1 8 1d715 1 8 1d74f 1 8 1d789 1 8
1d7c3 1 8 1d7ce 32 4 1da00 37 a 1da3b 32 a 1da75 1 a 1da84 1 a 1da9b 5 a 1daa1 f a 1e000 7 a
1e008 11 a 1e01b 7 a 1e023 2 a 1e026 5 a 1e130 7 a 1e2ae 1 a 1e2ec 4 a 1e2ff 1 7 1e800 c5 1
1e8c7 9 1 1e8d0 7 a 1e900 44 1 1e944 7 a 1e94b 1 1 1e950 a 1 1e95e 2 1 1ec71 44 2 1ed01 3d 2
1ee00 4 2 1ee05 1b 2 1ee21 2 2 1ee24 1 2 1ee27 1 2 1ee29 a 2 1ee34 4 2 1ee39 1 2 1ee3b 1 2 1ee42
1 2 1ee47 1 2 1ee49 1 2 1ee4b 1 2 1ee4d 3 2 1ee51 2 2 1ee54 1 2 1ee57 1 2 1ee59 1 2 1ee5b 1 2
1ee5d 1 2 1ee5f 1 2 1ee61 2 2 1ee64 1 2 1ee67 4 2 1ee6c 7 2 1ee74 4 2 1ee79 4 2 1ee7e 1 2 1ee80
a 2 1ee8b 11 2 1eea1 3 2 1eea5 5 2 1eeab 11 2 1eef0 2 8 1f000 2c 8 1f030 64 8 1f0a0 f 8 1f0b1 f
8 1f0c1 f 8 1f0d1 25 8 1f100 b 4 1f10b 5 8 1f12f 1 8 1f16a 6 8 1f1ad 1 8 1f260 6 8 1f300 3d8 8
1f6dd 10 8 1f6f0 d 8 1f700 74 8 1f780 59 8 1f7e0 c 8 1f7f0 1 8 1f800 c 8 1f810 38 8 1f850 a 8
1f860 28 8 1f890 1e 8 1f8b0 2 8 1f900 154 8 1fa60 e 8 1fa70 5 8 1fa78 5 8 1fa80 7 8 1fa90 1d 8
1fab0 b 8 1fac0 6 8 1fad0 a 8 1fae0 8 8 1faf0 7 8 1fb00 93 8 1fb94 37 8 1fbf0 a 4 e0001 1 9
e0020 60 9 e0100 f0 a"

/-- Runs of characters with one way to join: first character, length and way. -/
def joiningTable : String := "
ad 1 5 300 70 5 483 7 5 591 2d 5 5bf 1 5 5c1 2 5 5c4 2 5 5c7 1 5 610 b 5 61c 1 5 620 1 2 622 4 4
626 1 2 627 1 4 628 1 2 629 1 4 62a 5 2 62f 4 4 633 d 2 640 1 1 641 7 2 648 1 4 649 2 2 64b 15 5
66e 2 2 670 1 5 671 3 4 675 3 4 678 10 2 688 12 4 69a 26 2 6c0 1 4 6c1 2 2 6c3 9 4 6cc 1 2 6cd 1
4 6ce 1 2 6cf 1 4 6d0 2 2 6d2 2 4 6d5 1 4 6d6 7 5 6df 6 5 6e7 2 5 6ea 4 5 6ee 2 4 6fa 3 2 6ff 1
2 70f 1 5 710 1 4 711 1 5 712 3 2 715 5 4 71a 4 2 71e 1 4 71f 9 2 728 1 4 729 1 2 72a 1 4 72b 1
2 72c 1 4 72d 2 2 72f 1 4 730 1b 5 74d 1 4 74e b 2 759 3 4 75c f 2 76b 2 4 76d 4 2 771 1 4 772 1
2 773 2 4 775 3 2 778 2 4 77a 6 2 7a6 b 5 7ca 21 2 7eb 9 5 7fa 1 1 7fd 1 5 816 4 5 81b 9 5 825 3
5 829 5 5 840 1 4 841 5 2 846 2 4 848 1 2 849 1 4 84a a 2 854 1 4 855 1 2 856 3 4 859 3 5 860 1
2 862 4 2 867 1 4 868 1 2 869 2 4 870 13 4 883 3 1 886 1 2 889 5 2 88e 1 4 88f 1 2 897 9 5 8a0 a
2 8aa 3 4 8ae 1 4 8af 2 2 8b1 2 4 8b3 6 2 8b9 1 4 8ba f 2 8ca 18 5 8e3 20 5 93a 1 5 93c 1 5 941
8 5 94d 1 5 951 7 5 962 2 5 981 1 5 9bc 1 5 9c1 4 5 9cd 1 5 9e2 2 5 9fe 1 5 a01 2 5 a3c 1 5 a41
2 5 a47 2 5 a4b 3 5 a51 1 5 a70 2 5 a75 1 5 a81 2 5 abc 1 5 ac1 5 5 ac7 2 5 acd 1 5 ae2 2 5 afa
6 5 b01 1 5 b3c 1 5 b3f 1 5 b41 4 5 b4d 1 5 b55 2 5 b62 2 5 b82 1 5 bc0 1 5 bcd 1 5 c00 1 5 c04
1 5 c3c 1 5 c3e 3 5 c46 3 5 c4a 4 5 c55 2 5 c62 2 5 c81 1 5 cbc 1 5 cbf 1 5 cc6 1 5 ccc 2 5 ce2
2 5 d00 2 5 d3b 2 5 d41 4 5 d4d 1 5 d62 2 5 d81 1 5 dca 1 5 dd2 3 5 dd6 1 5 e31 1 5 e34 7 5 e47
8 5 eb1 1 5 eb4 9 5 ec8 7 5 f18 2 5 f35 1 5 f37 1 5 f39 1 5 f71 e 5 f80 5 5 f86 2 5 f8d b 5 f99
24 5 fc6 1 5 102d 4 5 1032 6 5 1039 2 5 103d 2 5 1058 2 5 105e 3 5 1071 4 5 1082 1 5 1085 2 5
108d 1 5 109d 1 5 135d 3 5 1712 3 5 1732 2 5 1752 2 5 1772 2 5 17b4 2 5 17b7 7 5 17c6 1 5 17c9 b
5 17dd 1 5 1807 1 2 180a 1 1 180b 3 5 180f 1 5 1820 59 2 1885 2 5 1887 22 2 18a9 1 5 18aa 1 2
1920 3 5 1927 2 5 1932 1 5 1939 3 5 1a17 2 5 1a1b 1 5 1a56 1 5 1a58 7 5 1a60 1 5 1a62 1 5 1a65 8
5 1a73 a 5 1a7f 1 5 1ab0 2e 5 1ae0 c 5 1b00 4 5 1b34 1 5 1b36 5 5 1b3c 1 5 1b42 1 5 1b6b 9 5
1b80 2 5 1ba2 4 5 1ba8 2 5 1bab 3 5 1be6 1 5 1be8 2 5 1bed 1 5 1bef 3 5 1c2c 8 5 1c36 2 5 1cd0 3
5 1cd4 d 5 1ce2 7 5 1ced 1 5 1cf4 1 5 1cf8 2 5 1dc0 40 5 200b 1 5 200d 1 1 200e 2 5 202a 5 5
2060 5 5 206a 6 5 20d0 21 5 2cef 3 5 2d7f 1 5 2de0 20 5 302a 4 5 3099 2 5 a66f 4 5 a674 a 5 a69e
2 5 a6f0 2 5 a802 1 5 a806 1 5 a80b 1 5 a825 2 5 a82c 1 5 a840 32 2 a872 1 3 a8c4 2 5 a8e0 12 5
a8ff 1 5 a926 8 5 a947 b 5 a980 3 5 a9b3 1 5 a9b6 4 5 a9bc 2 5 a9e5 1 5 aa29 6 5 aa31 2 5 aa35 2
5 aa43 1 5 aa4c 1 5 aa7c 1 5 aab0 1 5 aab2 3 5 aab7 2 5 aabe 2 5 aac1 1 5 aaec 2 5 aaf6 1 5 abe5
1 5 abe8 1 5 abed 1 5 fb1e 1 5 fe00 10 5 fe20 10 5 feff 1 5 fff9 3 5 101fd 1 5 102e0 1 5 10376 5
5 10a01 3 5 10a05 2 5 10a0c 4 5 10a38 3 5 10a3f 1 5 10ac0 5 2 10ac5 1 4 10ac7 1 4 10ac9 2 4
10acd 1 3 10ace 5 4 10ad3 4 2 10ad7 1 3 10ad8 5 2 10add 1 4 10ade 3 2 10ae1 1 4 10ae4 1 4 10ae5
2 5 10aeb 4 2 10aef 1 4 10b80 1 2 10b81 1 4 10b82 1 2 10b83 3 4 10b86 3 2 10b89 1 4 10b8a 2 2
10b8c 1 4 10b8d 1 2 10b8e 2 4 10b90 1 2 10b91 1 4 10ba9 4 4 10bad 2 2 10d00 1 3 10d01 21 2 10d22
1 4 10d23 1 2 10d24 4 5 10d69 5 5 10eab 2 5 10ec2 1 4 10ec3 2 2 10ec6 2 2 10efa 6 5 10f30 3 2
10f33 1 4 10f34 11 2 10f46 b 5 10f51 3 2 10f54 1 4 10f70 4 2 10f74 2 4 10f76 c 2 10f82 4 5 10fb0
1 2 10fb2 2 2 10fb4 3 4 10fb8 1 2 10fb9 2 4 10fbb 2 2 10fbd 1 4 10fbe 2 2 10fc1 1 2 10fc2 2 4
10fc4 1 2 10fc9 1 4 10fca 1 2 10fcb 1 3 11001 1 5 11038 f 5 11070 1 5 11073 2 5 1107f 3 5 110b3
4 5 110b9 2 5 110c2 1 5 11100 3 5 11127 5 5 1112d 8 5 11173 1 5 11180 2 5 111b6 9 5 111c9 4 5
111cf 1 5 1122f 3 5 11234 1 5 11236 2 5 1123e 1 5 11241 1 5 112df 1 5 112e3 8 5 11300 2 5 1133b
2 5 11340 1 5 11366 7 5 11370 5 5 113bb 6 5 113ce 1 5 113d0 1 5 113d2 1 5 113e1 2 5 11438 8 5
11442 3 5 11446 1 5 1145e 1 5 114b3 6 5 114ba 1 5 114bf 2 5 114c2 2 5 115b2 4 5 115bc 2 5 115bf
2 5 115dc 2 5 11633 8 5 1163d 1 5 1163f 2 5 116ab 1 5 116ad 1 5 116b0 6 5 116b7 1 5 1171d 1 5
1171f 1 5 11722 4 5 11727 5 5 1182f 9 5 11839 2 5 1193b 2 5 1193e 1 5 11943 1 5 119d4 4 5 119da
2 5 119e0 1 5 11a01 a 5 11a33 6 5 11a3b 4 5 11a47 1 5 11a51 6 5 11a59 3 5 11a8a d 5 11a98 2 5
11b60 1 5 11b62 3 5 11b66 1 5 11c30 7 5 11c38 6 5 11c3f 1 5 11c92 16 5 11caa 7 5 11cb2 2 5 11cb5
2 5 11d31 6 5 11d3a 1 5 11d3c 2 5 11d3f 7 5 11d47 1 5 11d90 2 5 11d95 1 5 11d97 1 5 11ef3 2 5
11f00 2 5 11f36 5 5 11f40 1 5 11f42 1 5 11f5a 1 5 13430 11 5 13447 f 5 1611e c 5 1612d 3 5 16af0
5 5 16b30 7 5 16f4f 1 5 16f8f 4 5 16fe4 1 5 1bc9d 2 5 1bca0 4 5 1cf00 2e 5 1cf30 17 5 1d167 3 5
1d173 10 5 1d185 7 5 1d1aa 4 5 1d242 3 5 1da00 37 5 1da3b 32 5 1da75 1 5 1da84 1 5 1da9b 5 5
1daa1 f 5 1e000 7 5 1e008 11 5 1e01b 7 5 1e023 2 5 1e026 5 5 1e08f 1 5 1e130 7 5 1e2ae 1 5 1e2ec
4 5 1e4ec 4 5 1e5ee 2 5 1e6e3 1 5 1e6e6 1 5 1e6ee 2 5 1e6f5 1 5 1e8d0 7 5 1e900 44 2 1e944 8 5
e0001 1 5 e0020 60 5 e0100 f0 5"

/-- Runs of marks: first character and length. -/
def markTable : String := "
300 70 483 7 591 2d 5bf 1 5c1 2 5c4 2 5c7 1 610 b 64b 15 670 1 6d6 7 6df 6 6e7 2 6ea 4 711 1 730
1b 7a6 b 7eb 9 7fd 1 816 4 81b 9 825 3 829 5 859 3 898 8 8ca 18 8e3 21 93a 3 93e 12 951 7 962 2
981 3 9bc 1 9be 7 9c7 2 9cb 3 9d7 1 9e2 2 9fe 1 a01 3 a3c 1 a3e 5 a47 2 a4b 3 a51 1 a70 2 a75 1
a81 3 abc 1 abe 8 ac7 3 acb 3 ae2 2 afa 6 b01 3 b3c 1 b3e 7 b47 2 b4b 3 b55 3 b62 2 b82 1 bbe 5
bc6 3 bca 4 bd7 1 c00 5 c3c 1 c3e 7 c46 3 c4a 4 c55 2 c62 2 c81 3 cbc 1 cbe 7 cc6 3 cca 4 cd5 2
ce2 2 d00 4 d3b 2 d3e 7 d46 3 d4a 4 d57 1 d62 2 d81 3 dca 1 dcf 6 dd6 1 dd8 8 df2 2 e31 1 e34 7
e47 8 eb1 1 eb4 9 ec8 6 f18 2 f35 1 f37 1 f39 1 f3e 2 f71 14 f86 2 f8d b f99 24 fc6 1 102b 14
1056 4 105e 3 1062 3 1067 7 1071 4 1082 c 108f 1 109a 4 135d 3 1712 4 1732 3 1752 2 1772 2 17b4
20 17dd 1 180b 3 180f 1 1885 2 18a9 1 1920 c 1930 c 1a17 5 1a55 a 1a60 1d 1a7f 1 1ab0 1f 1b00 5
1b34 11 1b6b 9 1b80 3 1ba1 d 1be6 e 1c24 14 1cd0 3 1cd4 15 1ced 1 1cf4 1 1cf7 3 1dc0 40 20d0 21
2cef 3 2d7f 1 2de0 20 302a 6 3099 2 a66f 4 a674 a a69e 2 a6f0 2 a802 1 a806 1 a80b 1 a823 5 a82c
1 a880 2 a8b4 12 a8e0 12 a8ff 1 a926 8 a947 d a980 4 a9b3 e a9e5 1 aa29 e aa43 1 aa4c 2 aa7b 3
aab0 1 aab2 3 aab7 2 aabe 2 aac1 1 aaeb 5 aaf5 2 abe3 8 abec 2 fb1e 1 fe00 10 fe20 10 101fd 1
102e0 1 10376 5 10a01 3 10a05 2 10a0c 4 10a38 3 10a3f 1 10ae5 2 10d24 4 10eab 2 10f46 b 10f82 4
11000 3 11038 f 11070 1 11073 2 1107f 4 110b0 b 110c2 1 11100 3 11127 e 11145 2 11173 1 11180 3
111b3 e 111c9 4 111ce 2 1122c c 1123e 1 112df c 11300 4 1133b 2 1133e 7 11347 2 1134b 3 11357 1
11362 2 11366 7 11370 5 11435 12 1145e 1 114b0 14 115af 7 115b8 9 115dc 2 11630 11 116ab d 1171d
f 1182c f 11930 6 11937 2 1193b 4 11940 1 11942 2 119d1 7 119da 7 119e4 1 11a01 a 11a33 7 11a3b
4 11a47 1 11a51 b 11a8a 10 11c2f 8 11c38 8 11c92 16 11ca9 e 11d31 6 11d3a 1 11d3c 2 11d3f 7
11d47 1 11d8a 5 11d90 2 11d93 5 11ef3 4 16af0 5 16b30 7 16f4f 1 16f51 37 16f8f 4 16fe4 1 16ff0 2
1bc9d 2 1cf00 2e 1cf30 17 1d165 5 1d16d 6 1d17b 8 1d185 7 1d1aa 4 1d242 3 1da00 37 1da3b 32
1da75 1 1da84 1 1da9b 5 1daa1 f 1e000 7 1e008 11 1e01b 7 1e023 2 1e026 5 1e130 7 1e2ae 1 1e2ec 4
1e8d0 7 1e944 7 e0100 f0"

end SettingsBroker.Text.Script
