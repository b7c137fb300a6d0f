import PackageFinder.Unicode.Ranges

/-!
# Characters of domain names

What each character stands for in a domain name: itself, nothing, another text, or an error.
-/

namespace PackageFinder.Unicode

/-- Characters outside ASCII that stand for one other character. -/
def domainShifts : Shifts := .ofText "
  a0 a0 1 20 aa aa 1 61 b2 b3 1 32 b5 b5 1 3bc b9 b9 1 31 ba ba 1 6f c0 d6 1 e0 d8 de 1 f8
  100 12e 2 101 134 136 2 135 139 13d 2 13a 141 147 2 142 14a 176 2 14b 178 178 1 ff 179 17d 2 17a
  17f 17f 1 73 181 181 1 253 182 184 2 183 186 186 1 254 187 187 1 188 189 18a 1 256 18b 18b 1 18c
  18e 18e 1 1dd 18f 18f 1 259 190 190 1 25b 191 191 1 192 193 193 1 260 194 194 1 263
  196 196 1 269 197 197 1 268 198 198 1 199 19c 19c 1 26f 19d 19d 1 272 19f 19f 1 275
  1a0 1a4 2 1a1 1a6 1a6 1 280 1a7 1a7 1 1a8 1a9 1a9 1 283 1ac 1ac 1 1ad 1ae 1ae 1 288
  1af 1af 1 1b0 1b1 1b2 1 28a 1b3 1b5 2 1b4 1b7 1b7 1 292 1b8 1b8 1 1b9 1bc 1bc 1 1bd
  1cd 1db 2 1ce 1de 1ee 2 1df 1f4 1f4 1 1f5 1f6 1f6 1 195 1f7 1f7 1 1bf 1f8 21e 2 1f9
  220 220 1 19e 222 232 2 223 23a 23a 1 2c65 23b 23b 1 23c 23d 23d 1 19a 23e 23e 1 2c66
  241 241 1 242 243 243 1 180 244 244 1 289 245 245 1 28c 246 24e 2 247 2b0 2b2 2 68 2b1 2b1 1 266
  2b3 2b3 1 72 2b4 2b4 1 279 2b5 2b5 1 27b 2b6 2b6 1 281 2b7 2b7 1 77 2b8 2b8 1 79 2e0 2e0 1 263
  2e1 2e1 1 6c 2e2 2e2 1 73 2e3 2e3 1 78 2e4 2e4 1 295 340 341 1 300 343 343 1 313 345 345 1 3b9
  370 372 2 371 374 374 1 2b9 376 376 1 377 37e 37e 1 3b 37f 37f 1 3f3 386 386 1 3ac 387 387 1 b7
  388 38a 1 3ad 38c 38c 1 3cc 38e 38f 1 3cd 391 3a1 1 3b1 3a3 3ab 1 3c3 3cf 3cf 1 3d7
  3d0 3d0 1 3b2 3d1 3d1 1 3b8 3d2 3d2 1 3c5 3d3 3d3 1 3cd 3d4 3d4 1 3cb 3d5 3d5 1 3c6
  3d6 3d6 1 3c0 3d8 3ee 2 3d9 3f0 3f0 1 3ba 3f1 3f1 1 3c1 3f2 3f2 1 3c3 3f4 3f4 1 3b8
  3f5 3f5 1 3b5 3f7 3f7 1 3f8 3f9 3f9 1 3c3 3fa 3fa 1 3fb 3fd 3ff 1 37b 400 40f 1 450
  410 42f 1 430 460 480 2 461 48a 4be 2 48b 4c0 4c0 1 4cf 4c1 4cd 2 4c2 4d0 52e 2 4d1
  531 556 1 561 f0c f0c 1 f0b 10a0 10c5 1 2d00 10c7 10c7 1 2d27 10cd 10cd 1 2d2d 10fc 10fc 1 10dc
  13f8 13fd 1 13f0 1c80 1c80 1 432 1c81 1c81 1 434 1c82 1c82 1 43e 1c83 1c84 1 441 1c85 1c85 1 442
  1c86 1c86 1 44a 1c87 1c87 1 463 1c88 1c88 1 a64b 1c89 1c89 1 1c8a 1c90 1cba 1 10d0
  1cbd 1cbf 1 10fd 1d2c 1d2c 1 61 1d2d 1d2d 1 e6 1d2e 1d30 2 62 1d31 1d39 2 65 1d32 1d32 1 1dd
  1d34 1d3a 2 68 1d3c 1d3c 1 6f 1d3d 1d3d 1 223 1d3e 1d3e 1 70 1d3f 1d3f 1 72 1d40 1d41 1 74
  1d42 1d42 1 77 1d43 1d43 1 61 1d44 1d45 1 250 1d46 1d46 1 1d02 1d47 1d47 1 62 1d48 1d49 1 64
  1d4a 1d4a 1 259 1d4b 1d4c 1 25b 1d4d 1d4d 1 67 1d4f 1d4f 1 6b 1d50 1d52 2 6d 1d51 1d51 1 14b
  1d53 1d53 1 254 1d54 1d55 1 1d16 1d56 1d56 1 70 1d57 1d58 1 74 1d59 1d59 1 1d1d 1d5a 1d5a 1 26f
  1d5b 1d5b 1 76 1d5c 1d5c 1 1d25 1d5d 1d5f 1 3b2 1d60 1d61 1 3c6 1d62 1d62 1 69 1d63 1d63 1 72
  1d64 1d65 1 75 1d66 1d67 1 3b2 1d68 1d68 1 3c1 1d69 1d6a 1 3c6 1d78 1d78 1 43d 1d9b 1d9b 1 252
  1d9c 1d9c 1 63 1d9d 1d9d 1 255 1d9e 1d9e 1 f0 1d9f 1d9f 1 25c 1da0 1da0 1 66 1da1 1da1 1 25f
  1da2 1da2 1 261 1da3 1da3 1 265 1da4 1da6 1 268 1da7 1da7 1 1d7b 1da8 1da8 1 29d 1da9 1da9 1 26d
  1daa 1daa 1 1d85 1dab 1dab 1 29f 1dac 1dac 1 271 1dad 1dad 1 270 1dae 1db1 1 272 1db2 1db2 1 278
  1db3 1db4 1 282 1db5 1db5 1 1ab 1db6 1db7 1 289 1db8 1db8 1 1d1c 1db9 1dba 1 28b 1dbb 1dbb 1 7a
  1dbc 1dbe 1 290 1dbf 1dbf 1 3b8 1e00 1e94 2 1e01 1e9b 1e9b 1 1e61 1e9e 1e9e 1 df
  1ea0 1efe 2 1ea1 1f08 1f0f 1 1f00 1f18 1f1d 1 1f10 1f28 1f2f 1 1f20 1f38 1f3f 1 1f30
  1f48 1f4d 1 1f40 1f59 1f5f 2 1f51 1f68 1f6f 1 1f60 1f71 1f71 1 3ac 1f73 1f73 1 3ad
  1f75 1f75 1 3ae 1f77 1f77 1 3af 1f79 1f79 1 3cc 1f7b 1f7b 1 3cd 1f7d 1f7d 1 3ce 1fb8 1fb9 1 1fb0
  1fba 1fba 1 1f70 1fbb 1fbb 1 3ac 1fbe 1fbe 1 3b9 1fc8 1fca 2 1f72 1fc9 1fc9 1 3ad
  1fcb 1fcb 1 3ae 1fd3 1fd3 1 390 1fd8 1fd9 1 1fd0 1fda 1fda 1 1f76 1fdb 1fdb 1 3af
  1fe3 1fe3 1 3b0 1fe8 1fe9 1 1fe0 1fea 1fea 1 1f7a 1feb 1feb 1 3cd 1fec 1fec 1 1fe5
  1fef 1fef 1 60 1ff8 1ff8 1 1f78 1ff9 1ffb 2 3cc 1ffa 1ffa 1 1f7c 2000 2000 1 20 2001 2001 1 20
  2002 2002 1 20 2003 2003 1 20 2004 2004 1 20 2005 2005 1 20 2006 2006 1 20 2007 2007 1 20
  2008 2008 1 20 2009 2009 1 20 200a 200a 1 20 2011 2011 1 2010 202f 202f 1 20 205f 205f 1 20
  2070 2070 1 30 2071 2071 1 69 2074 2079 1 34 207a 207a 1 2b 207b 207b 1 2212 207c 207c 1 3d
  207d 207e 1 28 207f 207f 1 6e 2080 2089 1 30 208a 208a 1 2b 208b 208b 1 2212 208c 208c 1 3d
  208d 208e 1 28 2090 2090 1 61 2091 2091 1 65 2092 2092 1 6f 2093 2093 1 78 2094 2094 1 259
  2095 2095 1 68 2096 2099 1 6b 209a 209a 1 70 209b 209c 1 73 2102 2102 1 63 2107 2107 1 25b
  210a 210b 1 67 210c 210c 1 68 210d 210d 1 68 210e 210e 1 68 210f 210f 1 127 2110 2110 1 69
  2111 2111 1 69 2112 2112 1 6c 2113 2115 2 6c 2119 211b 1 70 211c 211c 1 72 211d 211d 1 72
  2124 2124 1 7a 2126 2126 1 3c9 2128 2128 1 7a 212a 212a 1 6b 212b 212b 1 e5 212c 212d 1 62
  212f 212f 1 65 2130 2131 1 65 2132 2132 1 214e 2133 2133 1 6d 2134 2134 1 6f 2135 2138 1 5d0
  2139 2139 1 69 213c 213c 1 3c0 213d 213d 1 3b3 213e 213e 1 3b3 213f 213f 1 3c0 2140 2140 1 2211
  2145 2145 1 64 2146 2147 1 64 2148 2149 1 69 2160 2160 1 69 2164 2164 1 76 2169 2169 1 78
  216c 216c 1 6c 216d 216e 1 63 216f 216f 1 6d 2170 2170 1 69 2174 2174 1 76 2179 2179 1 78
  217c 217c 1 6c 217d 217e 1 63 217f 217f 1 6d 2183 2183 1 2184 2329 232a 1 3008 2460 2468 1 31
  24b6 24cf 1 61 24d0 24e9 1 61 24ea 24ea 1 30 2c00 2c2f 1 2c30 2c60 2c60 1 2c61 2c62 2c62 1 26b
  2c63 2c63 1 1d7d 2c64 2c64 1 27d 2c67 2c6b 2 2c68 2c6d 2c6d 1 251 2c6e 2c6e 1 271
  2c6f 2c6f 1 250 2c70 2c70 1 252 2c72 2c72 1 2c73 2c75 2c75 1 2c76 2c7c 2c7c 1 6a 2c7d 2c7d 1 76
  2c7e 2c7f 1 23f 2c80 2ce2 2 2c81 2ceb 2ced 2 2cec 2cf2 2cf2 1 2cf3 2d6f 2d6f 1 2d61
  2e9f 2e9f 1 6bcd 2ef3 2ef3 1 9f9f 2f00 2f00 1 4e00 2f01 2f01 1 4e28 2f02 2f02 1 4e36
  2f03 2f03 1 4e3f 2f04 2f04 1 4e59 2f05 2f05 1 4e85 2f06 2f06 1 4e8c 2f07 2f07 1 4ea0
  2f08 2f08 1 4eba 2f09 2f09 1 513f 2f0a 2f0a 1 5165 2f0b 2f0b 1 516b 2f0c 2f0c 1 5182
  2f0d 2f0d 1 5196 2f0e 2f0e 1 51ab 2f0f 2f0f 1 51e0 2f10 2f10 1 51f5 2f11 2f11 1 5200
  2f12 2f12 1 529b 2f13 2f13 1 52f9 2f14 2f14 1 5315 2f15 2f15 1 531a 2f16 2f16 1 5338
  2f17 2f17 1 5341 2f18 2f18 1 535c 2f19 2f19 1 5369 2f1a 2f1a 1 5382 2f1b 2f1b 1 53b6
  2f1c 2f1c 1 53c8 2f1d 2f1d 1 53e3 2f1e 2f1e 1 56d7 2f1f 2f1f 1 571f 2f20 2f20 1 58eb
  2f21 2f21 1 5902 2f22 2f22 1 590a 2f23 2f23 1 5915 2f24 2f24 1 5927 2f25 2f25 1 5973
  2f26 2f26 1 5b50 2f27 2f27 1 5b80 2f28 2f28 1 5bf8 2f29 2f29 1 5c0f 2f2a 2f2a 1 5c22
  2f2b 2f2b 1 5c38 2f2c 2f2c 1 5c6e 2f2d 2f2d 1 5c71 2f2e 2f2e 1 5ddb 2f2f 2f2f 1 5de5
  2f30 2f30 1 5df1 2f31 2f31 1 5dfe 2f32 2f32 1 5e72 2f33 2f33 1 5e7a 2f34 2f34 1 5e7f
  2f35 2f35 1 5ef4 2f36 2f36 1 5efe 2f37 2f37 1 5f0b 2f38 2f38 1 5f13 2f39 2f39 1 5f50
  2f3a 2f3a 1 5f61 2f3b 2f3b 1 5f73 2f3c 2f3c 1 5fc3 2f3d 2f3d 1 6208 2f3e 2f3e 1 6236
  2f3f 2f3f 1 624b 2f40 2f40 1 652f 2f41 2f41 1 6534 2f42 2f42 1 6587 2f43 2f43 1 6597
  2f44 2f44 1 65a4 2f45 2f45 1 65b9 2f46 2f46 1 65e0 2f47 2f47 1 65e5 2f48 2f48 1 66f0
  2f49 2f49 1 6708 2f4a 2f4a 1 6728 2f4b 2f4b 1 6b20 2f4c 2f4c 1 6b62 2f4d 2f4d 1 6b79
  2f4e 2f4e 1 6bb3 2f4f 2f4f 1 6bcb 2f50 2f50 1 6bd4 2f51 2f51 1 6bdb 2f52 2f52 1 6c0f
  2f53 2f53 1 6c14 2f54 2f54 1 6c34 2f55 2f55 1 706b 2f56 2f56 1 722a 2f57 2f57 1 7236
  2f58 2f58 1 723b 2f59 2f59 1 723f 2f5a 2f5a 1 7247 2f5b 2f5b 1 7259 2f5c 2f5c 1 725b
  2f5d 2f5d 1 72ac 2f5e 2f5e 1 7384 2f5f 2f5f 1 7389 2f60 2f60 1 74dc 2f61 2f61 1 74e6
  2f62 2f62 1 7518 2f63 2f63 1 751f 2f64 2f64 1 7528 2f65 2f65 1 7530 2f66 2f66 1 758b
  2f67 2f67 1 7592 2f68 2f68 1 7676 2f69 2f69 1 767d 2f6a 2f6a 1 76ae 2f6b 2f6b 1 76bf
  2f6c 2f6c 1 76ee 2f6d 2f6d 1 77db 2f6e 2f6e 1 77e2 2f6f 2f6f 1 77f3 2f70 2f70 1 793a
  2f71 2f71 1 79b8 2f72 2f72 1 79be 2f73 2f73 1 7a74 2f74 2f74 1 7acb 2f75 2f75 1 7af9
  2f76 2f76 1 7c73 2f77 2f77 1 7cf8 2f78 2f78 1 7f36 2f79 2f79 1 7f51 2f7a 2f7a 1 7f8a
  2f7b 2f7b 1 7fbd 2f7c 2f7c 1 8001 2f7d 2f7d 1 800c 2f7e 2f7e 1 8012 2f7f 2f7f 1 8033
  2f80 2f80 1 807f 2f81 2f81 1 8089 2f82 2f82 1 81e3 2f83 2f83 1 81ea 2f84 2f84 1 81f3
  2f85 2f85 1 81fc 2f86 2f86 1 820c 2f87 2f87 1 821b 2f88 2f88 1 821f 2f89 2f89 1 826e
  2f8a 2f8a 1 8272 2f8b 2f8b 1 8278 2f8c 2f8c 1 864d 2f8d 2f8d 1 866b 2f8e 2f8e 1 8840
  2f8f 2f8f 1 884c 2f90 2f90 1 8863 2f91 2f91 1 897e 2f92 2f92 1 898b 2f93 2f93 1 89d2
  2f94 2f94 1 8a00 2f95 2f95 1 8c37 2f96 2f96 1 8c46 2f97 2f97 1 8c55 2f98 2f98 1 8c78
  2f99 2f99 1 8c9d 2f9a 2f9a 1 8d64 2f9b 2f9b 1 8d70 2f9c 2f9c 1 8db3 2f9d 2f9d 1 8eab
  2f9e 2f9e 1 8eca 2f9f 2f9f 1 8f9b 2fa0 2fa0 1 8fb0 2fa1 2fa1 1 8fb5 2fa2 2fa2 1 9091
  2fa3 2fa3 1 9149 2fa4 2fa4 1 91c6 2fa5 2fa5 1 91cc 2fa6 2fa6 1 91d1 2fa7 2fa7 1 9577
  2fa8 2fa8 1 9580 2fa9 2fa9 1 961c 2faa 2faa 1 96b6 2fab 2fab 1 96b9 2fac 2fac 1 96e8
  2fad 2fad 1 9751 2fae 2fae 1 975e 2faf 2faf 1 9762 2fb0 2fb0 1 9769 2fb1 2fb1 1 97cb
  2fb2 2fb2 1 97ed 2fb3 2fb3 1 97f3 2fb4 2fb4 1 9801 2fb5 2fb5 1 98a8 2fb6 2fb6 1 98db
  2fb7 2fb7 1 98df 2fb8 2fb8 1 9996 2fb9 2fb9 1 9999 2fba 2fba 1 99ac 2fbb 2fbb 1 9aa8
  2fbc 2fbc 1 9ad8 2fbd 2fbd 1 9adf 2fbe 2fbe 1 9b25 2fbf 2fbf 1 9b2f 2fc0 2fc0 1 9b32
  2fc1 2fc1 1 9b3c 2fc2 2fc2 1 9b5a 2fc3 2fc3 1 9ce5 2fc4 2fc4 1 9e75 2fc5 2fc5 1 9e7f
  2fc6 2fc6 1 9ea5 2fc7 2fc7 1 9ebb 2fc8 2fc8 1 9ec3 2fc9 2fc9 1 9ecd 2fca 2fca 1 9ed1
  2fcb 2fcb 1 9ef9 2fcc 2fcc 1 9efd 2fcd 2fcd 1 9f0e 2fce 2fce 1 9f13 2fcf 2fcf 1 9f20
  2fd0 2fd0 1 9f3b 2fd1 2fd1 1 9f4a 2fd2 2fd2 1 9f52 2fd3 2fd3 1 9f8d 2fd4 2fd4 1 9f9c
  2fd5 2fd5 1 9fa0 3000 3000 1 20 3002 3002 1 2e 3036 3036 1 3012 3038 3038 1 5341
  3039 303a 1 5344 3131 3132 1 1100 3133 3135 2 11aa 3134 3134 1 1102 3136 3136 1 11ad
  3137 3139 1 1103 313a 313f 1 11b0 3140 3140 1 111a 3141 3143 1 1106 3144 3144 1 1121
  3145 314e 1 1109 314f 3163 1 1161 3165 3166 1 1114 3167 3168 1 11c7 3169 3169 1 11cc
  316a 316a 1 11ce 316b 316b 1 11d3 316c 316c 1 11d7 316d 316d 1 11d9 316e 316e 1 111c
  316f 316f 1 11dd 3170 3170 1 11df 3171 3172 1 111d 3173 3173 1 1120 3174 3175 1 1122
  3176 3176 1 1127 3177 3177 1 1129 3178 317c 1 112b 317d 317d 1 1132 317e 317e 1 1136
  317f 317f 1 1140 3180 3180 1 1147 3181 3181 1 114c 3182 3183 1 11f1 3184 3186 1 1157
  3187 3188 1 1184 3189 3189 1 1188 318a 318b 1 1191 318c 318c 1 1194 318d 318d 1 119e
  318e 318e 1 11a1 3192 3192 1 4e00 3193 3193 1 4e8c 3194 3194 1 4e09 3195 3195 1 56db
  3196 3196 1 4e0a 3197 3197 1 4e2d 3198 3198 1 4e0b 3199 3199 1 7532 319a 319a 1 4e59
  319b 319b 1 4e19 319c 319c 1 4e01 319d 319d 1 5929 319e 319e 1 5730 319f 319f 1 4eba
  3244 3244 1 554f 3245 3245 1 5e7c 3246 3246 1 6587 3247 3247 1 7b8f 3260 3260 1 1100
  3261 3262 1 1102 3263 3265 1 1105 3266 3266 1 1109 3267 3268 1 110b 3269 326d 1 110e
  326e 326e 1 ac00 326f 326f 1 b098 3270 3270 1 b2e4 3271 3271 1 b77c 3272 3272 1 b9c8
  3273 3273 1 bc14 3274 3274 1 c0ac 3275 3275 1 c544 3276 3276 1 c790 3277 3277 1 cc28
  3278 3278 1 ce74 3279 3279 1 d0c0 327a 327a 1 d30c 327b 327b 1 d558 327e 327e 1 c6b0
  3280 3280 1 4e00 3281 3281 1 4e8c 3282 3282 1 4e09 3283 3283 1 56db 3284 3284 1 4e94
  3285 3285 1 516d 3286 3286 1 4e03 3287 3287 1 516b 3288 3288 1 4e5d 3289 3289 1 5341
  328a 328a 1 6708 328b 328b 1 706b 328c 328c 1 6c34 328d 328d 1 6728 328e 328e 1 91d1
  328f 328f 1 571f 3290 3290 1 65e5 3291 3291 1 682a 3292 3292 1 6709 3293 3293 1 793e
  3294 3294 1 540d 3295 3295 1 7279 3296 3296 1 8ca1 3297 3297 1 795d 3298 3298 1 52b4
  3299 3299 1 79d8 329a 329a 1 7537 329b 329b 1 5973 329c 329c 1 9069 329d 329d 1 512a
  329e 329e 1 5370 329f 329f 1 6ce8 32a0 32a0 1 9805 32a1 32a1 1 4f11 32a2 32a2 1 5199
  32a3 32a3 1 6b63 32a4 32a4 1 4e0a 32a5 32a5 1 4e2d 32a6 32a6 1 4e0b 32a7 32a7 1 5de6
  32a8 32a8 1 53f3 32a9 32a9 1 533b 32aa 32aa 1 5b97 32ab 32ab 1 5b66 32ac 32ac 1 76e3
  32ad 32ad 1 4f01 32ae 32ae 1 8cc7 32af 32af 1 5354 32b0 32b0 1 591c 32d0 32d0 1 30a2
  32d1 32d1 1 30a4 32d2 32d2 1 30a6 32d3 32d3 1 30a8 32d4 32d5 1 30aa 32d6 32d6 1 30ad
  32d7 32d7 1 30af 32d8 32d8 1 30b1 32d9 32d9 1 30b3 32da 32da 1 30b5 32db 32db 1 30b7
  32dc 32dc 1 30b9 32dd 32dd 1 30bb 32de 32de 1 30bd 32df 32df 1 30bf 32e0 32e0 1 30c1
  32e1 32e1 1 30c4 32e2 32e2 1 30c6 32e3 32e3 1 30c8 32e4 32e9 1 30ca 32ea 32ea 1 30d2
  32eb 32eb 1 30d5 32ec 32ec 1 30d8 32ed 32ed 1 30db 32ee 32f2 1 30de 32f3 32f3 1 30e4
  32f4 32f4 1 30e6 32f5 32fa 1 30e8 32fb 32fe 1 30ef a640 a66c 2 a641 a680 a69a 2 a681
  a69c a69c 1 44a a69d a69d 1 44c a722 a72e 2 a723 a732 a76e 2 a733 a770 a770 1 a76f
  a779 a77b 2 a77a a77d a77d 1 1d79 a77e a786 2 a77f a78b a78b 1 a78c a78d a78d 1 265
  a790 a792 2 a791 a796 a7a8 2 a797 a7aa a7aa 1 266 a7ab a7ab 1 25c a7ac a7ac 1 261
  a7ad a7ad 1 26c a7ae a7ae 1 26a a7b0 a7b0 1 29e a7b1 a7b1 1 287 a7b2 a7b2 1 29d a7b3 a7b3 1 ab53
  a7b4 a7c2 2 a7b5 a7c4 a7c4 1 a794 a7c5 a7c5 1 282 a7c6 a7c6 1 1d8e a7c7 a7c9 2 a7c8
  a7cb a7cb 1 264 a7cc a7da 2 a7cd a7dc a7dc 1 19b a7f1 a7f1 1 73 a7f2 a7f2 1 63 a7f3 a7f3 1 66
  a7f4 a7f4 1 71 a7f5 a7f5 1 a7f6 a7f8 a7f8 1 127 a7f9 a7f9 1 153 ab5c ab5c 1 a727
  ab5d ab5d 1 ab37 ab5e ab5e 1 26b ab5f ab5f 1 ab52 ab69 ab69 1 28d ab70 abbf 1 13a0
  f900 f900 1 8c48 f901 f901 1 66f4 f902 f902 1 8eca f903 f903 1 8cc8 f904 f904 1 6ed1
  f905 f905 1 4e32 f906 f906 1 53e5 f907 f907 1 9f9c f908 f908 1 9f9c f909 f909 1 5951
  f90a f90a 1 91d1 f90b f90b 1 5587 f90c f90c 1 5948 f90d f90d 1 61f6 f90e f90e 1 7669
  f90f f90f 1 7f85 f910 f910 1 863f f911 f911 1 87ba f912 f912 1 88f8 f913 f913 1 908f
  f914 f914 1 6a02 f915 f915 1 6d1b f916 f916 1 70d9 f917 f917 1 73de f918 f918 1 843d
  f919 f919 1 916a f91a f91a 1 99f1 f91b f91b 1 4e82 f91c f91c 1 5375 f91d f91d 1 6b04
  f91e f91e 1 721b f91f f91f 1 862d f920 f920 1 9e1e f921 f921 1 5d50 f922 f922 1 6feb
  f923 f923 1 85cd f924 f924 1 8964 f925 f925 1 62c9 f926 f926 1 81d8 f927 f927 1 881f
  f928 f928 1 5eca f929 f929 1 6717 f92a f92a 1 6d6a f92b f92b 1 72fc f92c f92c 1 90ce
  f92d f92d 1 4f86 f92e f92e 1 51b7 f92f f92f 1 52de f930 f930 1 64c4 f931 f931 1 6ad3
  f932 f932 1 7210 f933 f933 1 76e7 f934 f934 1 8001 f935 f935 1 8606 f936 f936 1 865c
  f937 f937 1 8def f938 f938 1 9732 f939 f939 1 9b6f f93a f93a 1 9dfa f93b f93b 1 788c
  f93c f93c 1 797f f93d f93d 1 7da0 f93e f93e 1 83c9 f93f f93f 1 9304 f940 f940 1 9e7f
  f941 f941 1 8ad6 f942 f942 1 58df f943 f943 1 5f04 f944 f944 1 7c60 f945 f945 1 807e
  f946 f946 1 7262 f947 f947 1 78ca f948 f948 1 8cc2 f949 f949 1 96f7 f94a f94a 1 58d8
  f94b f94b 1 5c62 f94c f94c 1 6a13 f94d f94d 1 6dda f94e f94e 1 6f0f f94f f94f 1 7d2f
  f950 f950 1 7e37 f951 f951 1 964b f952 f952 1 52d2 f953 f953 1 808b f954 f954 1 51dc
  f955 f955 1 51cc f956 f956 1 7a1c f957 f957 1 7dbe f958 f958 1 83f1 f959 f959 1 9675
  f95a f95a 1 8b80 f95b f95b 1 62cf f95c f95c 1 6a02 f95d f95d 1 8afe f95e f95e 1 4e39
  f95f f95f 1 5be7 f960 f960 1 6012 f961 f961 1 7387 f962 f962 1 7570 f963 f963 1 5317
  f964 f964 1 78fb f965 f965 1 4fbf f966 f966 1 5fa9 f967 f967 1 4e0d f968 f968 1 6ccc
  f969 f969 1 6578 f96a f96a 1 7d22 f96b f96b 1 53c3 f96c f96c 1 585e f96d f96d 1 7701
  f96e f96e 1 8449 f96f f96f 1 8aaa f970 f970 1 6bba f971 f971 1 8fb0 f972 f972 1 6c88
  f973 f973 1 62fe f974 f974 1 82e5 f975 f975 1 63a0 f976 f976 1 7565 f977 f977 1 4eae
  f978 f978 1 5169 f979 f979 1 51c9 f97a f97a 1 6881 f97b f97b 1 7ce7 f97c f97c 1 826f
  f97d f97d 1 8ad2 f97e f97e 1 91cf f97f f97f 1 52f5 f980 f980 1 5442 f981 f981 1 5973
  f982 f982 1 5eec f983 f983 1 65c5 f984 f984 1 6ffe f985 f985 1 792a f986 f986 1 95ad
  f987 f987 1 9a6a f988 f988 1 9e97 f989 f989 1 9ece f98a f98a 1 529b f98b f98b 1 66c6
  f98c f98c 1 6b77 f98d f98d 1 8f62 f98e f98e 1 5e74 f98f f98f 1 6190 f990 f990 1 6200
  f991 f991 1 649a f992 f992 1 6f23 f993 f993 1 7149 f994 f994 1 7489 f995 f995 1 79ca
  f996 f996 1 7df4 f997 f997 1 806f f998 f998 1 8f26 f999 f999 1 84ee f99a f99a 1 9023
  f99b f99b 1 934a f99c f99c 1 5217 f99d f99d 1 52a3 f99e f99e 1 54bd f99f f99f 1 70c8
  f9a0 f9a0 1 88c2 f9a1 f9a1 1 8aaa f9a2 f9a2 1 5ec9 f9a3 f9a3 1 5ff5 f9a4 f9a4 1 637b
  f9a5 f9a5 1 6bae f9a6 f9a6 1 7c3e f9a7 f9a7 1 7375 f9a8 f9a8 1 4ee4 f9a9 f9a9 1 56f9
  f9aa f9aa 1 5be7 f9ab f9ab 1 5dba f9ac f9ac 1 601c f9ad f9ad 1 73b2 f9ae f9ae 1 7469
  f9af f9af 1 7f9a f9b0 f9b0 1 8046 f9b1 f9b1 1 9234 f9b2 f9b2 1 96f6 f9b3 f9b3 1 9748
  f9b4 f9b4 1 9818 f9b5 f9b5 1 4f8b f9b6 f9b6 1 79ae f9b7 f9b7 1 91b4 f9b8 f9b8 1 96b8
  f9b9 f9b9 1 60e1 f9ba f9ba 1 4e86 f9bb f9bb 1 50da f9bc f9bc 1 5bee f9bd f9bd 1 5c3f
  f9be f9be 1 6599 f9bf f9bf 1 6a02 f9c0 f9c0 1 71ce f9c1 f9c1 1 7642 f9c2 f9c2 1 84fc
  f9c3 f9c3 1 907c f9c4 f9c4 1 9f8d f9c5 f9c5 1 6688 f9c6 f9c6 1 962e f9c7 f9c7 1 5289
  f9c8 f9c8 1 677b f9c9 f9c9 1 67f3 f9ca f9ca 1 6d41 f9cb f9cb 1 6e9c f9cc f9cc 1 7409
  f9cd f9cd 1 7559 f9ce f9ce 1 786b f9cf f9cf 1 7d10 f9d0 f9d0 1 985e f9d1 f9d1 1 516d
  f9d2 f9d2 1 622e f9d3 f9d3 1 9678 f9d4 f9d4 1 502b f9d5 f9d5 1 5d19 f9d6 f9d6 1 6dea
  f9d7 f9d7 1 8f2a f9d8 f9d8 1 5f8b f9d9 f9d9 1 6144 f9da f9da 1 6817 f9db f9db 1 7387
  f9dc f9dc 1 9686 f9dd f9dd 1 5229 f9de f9de 1 540f f9df f9df 1 5c65 f9e0 f9e0 1 6613
  f9e1 f9e1 1 674e f9e2 f9e2 1 68a8 f9e3 f9e3 1 6ce5 f9e4 f9e4 1 7406 f9e5 f9e5 1 75e2
  f9e6 f9e6 1 7f79 f9e7 f9e7 1 88cf f9e8 f9e8 1 88e1 f9e9 f9e9 1 91cc f9ea f9ea 1 96e2
  f9eb f9eb 1 533f f9ec f9ec 1 6eba f9ed f9ed 1 541d f9ee f9ee 1 71d0 f9ef f9ef 1 7498
  f9f0 f9f0 1 85fa f9f1 f9f1 1 96a3 f9f2 f9f2 1 9c57 f9f3 f9f3 1 9e9f f9f4 f9f4 1 6797
  f9f5 f9f5 1 6dcb f9f6 f9f6 1 81e8 f9f7 f9f7 1 7acb f9f8 f9f8 1 7b20 f9f9 f9f9 1 7c92
  f9fa f9fa 1 72c0 f9fb f9fb 1 7099 f9fc f9fc 1 8b58 f9fd f9fd 1 4ec0 f9fe f9fe 1 8336
  f9ff f9ff 1 523a fa00 fa00 1 5207 fa01 fa01 1 5ea6 fa02 fa02 1 62d3 fa03 fa03 1 7cd6
  fa04 fa04 1 5b85 fa05 fa05 1 6d1e fa06 fa06 1 66b4 fa07 fa07 1 8f3b fa08 fa08 1 884c
  fa09 fa09 1 964d fa0a fa0a 1 898b fa0b fa0b 1 5ed3 fa0c fa0c 1 5140 fa0d fa0d 1 55c0
  fa10 fa10 1 585a fa12 fa12 1 6674 fa15 fa15 1 51de fa16 fa16 1 732a fa17 fa17 1 76ca
  fa18 fa18 1 793c fa19 fa19 1 795e fa1a fa1a 1 7965 fa1b fa1b 1 798f fa1c fa1c 1 9756
  fa1d fa1d 1 7cbe fa1e fa1e 1 7fbd fa20 fa20 1 8612 fa22 fa22 1 8af8 fa25 fa25 1 9038
  fa26 fa26 1 90fd fa2a fa2a 1 98ef fa2b fa2b 1 98fc fa2c fa2c 1 9928 fa2d fa2d 1 9db4
  fa2e fa2e 1 90de fa2f fa2f 1 96b7 fa30 fa30 1 4fae fa31 fa31 1 50e7 fa32 fa32 1 514d
  fa33 fa33 1 52c9 fa34 fa34 1 52e4 fa35 fa35 1 5351 fa36 fa36 1 559d fa37 fa37 1 5606
  fa38 fa38 1 5668 fa39 fa39 1 5840 fa3a fa3a 1 58a8 fa3b fa3b 1 5c64 fa3c fa3c 1 5c6e
  fa3d fa3d 1 6094 fa3e fa3e 1 6168 fa3f fa3f 1 618e fa40 fa40 1 61f2 fa41 fa41 1 654f
  fa42 fa42 1 65e2 fa43 fa43 1 6691 fa44 fa44 1 6885 fa45 fa45 1 6d77 fa46 fa46 1 6e1a
  fa47 fa47 1 6f22 fa48 fa48 1 716e fa49 fa49 1 722b fa4a fa4a 1 7422 fa4b fa4b 1 7891
  fa4c fa4c 1 793e fa4d fa4d 1 7949 fa4e fa4e 1 7948 fa4f fa4f 1 7950 fa50 fa50 1 7956
  fa51 fa51 1 795d fa52 fa53 1 798d fa54 fa54 1 7a40 fa55 fa55 1 7a81 fa56 fa56 1 7bc0
  fa57 fa57 1 7df4 fa58 fa58 1 7e09 fa59 fa59 1 7e41 fa5a fa5a 1 7f72 fa5b fa5b 1 8005
  fa5c fa5c 1 81ed fa5d fa5d 1 8279 fa5e fa5e 1 8279 fa5f fa5f 1 8457 fa60 fa60 1 8910
  fa61 fa61 1 8996 fa62 fa62 1 8b01 fa63 fa63 1 8b39 fa64 fa64 1 8cd3 fa65 fa65 1 8d08
  fa66 fa66 1 8fb6 fa67 fa67 1 9038 fa68 fa68 1 96e3 fa69 fa69 1 97ff fa6a fa6a 1 983b
  fa6b fa6b 1 6075 fa6c fa6c 1 242ee fa6d fa6d 1 8218 fa70 fa70 1 4e26 fa71 fa71 1 51b5
  fa72 fa72 1 5168 fa73 fa73 1 4f80 fa74 fa74 1 5145 fa75 fa75 1 5180 fa76 fa76 1 52c7
  fa77 fa77 1 52fa fa78 fa78 1 559d fa79 fa79 1 5555 fa7a fa7a 1 5599 fa7b fa7b 1 55e2
  fa7c fa7c 1 585a fa7d fa7d 1 58b3 fa7e fa7e 1 5944 fa7f fa7f 1 5954 fa80 fa80 1 5a62
  fa81 fa81 1 5b28 fa82 fa82 1 5ed2 fa83 fa83 1 5ed9 fa84 fa84 1 5f69 fa85 fa85 1 5fad
  fa86 fa86 1 60d8 fa87 fa87 1 614e fa88 fa88 1 6108 fa89 fa89 1 618e fa8a fa8a 1 6160
  fa8b fa8b 1 61f2 fa8c fa8c 1 6234 fa8d fa8d 1 63c4 fa8e fa8e 1 641c fa8f fa8f 1 6452
  fa90 fa90 1 6556 fa91 fa91 1 6674 fa92 fa92 1 6717 fa93 fa93 1 671b fa94 fa94 1 6756
  fa95 fa95 1 6b79 fa96 fa96 1 6bba fa97 fa97 1 6d41 fa98 fa98 1 6edb fa99 fa99 1 6ecb
  fa9a fa9a 1 6f22 fa9b fa9b 1 701e fa9c fa9c 1 716e fa9d fa9d 1 77a7 fa9e fa9e 1 7235
  fa9f fa9f 1 72af faa0 faa0 1 732a faa1 faa1 1 7471 faa2 faa2 1 7506 faa3 faa3 1 753b
  faa4 faa4 1 761d faa5 faa5 1 761f faa6 faa6 1 76ca faa7 faa7 1 76db faa8 faa8 1 76f4
  faa9 faa9 1 774a faaa faaa 1 7740 faab faab 1 78cc faac faac 1 7ab1 faad faad 1 7bc0
  faae faae 1 7c7b faaf faaf 1 7d5b fab0 fab0 1 7df4 fab1 fab1 1 7f3e fab2 fab2 1 8005
  fab3 fab3 1 8352 fab4 fab4 1 83ef fab5 fab5 1 8779 fab6 fab6 1 8941 fab7 fab7 1 8986
  fab8 fab8 1 8996 fab9 fab9 1 8abf faba faba 1 8af8 fabb fabb 1 8acb fabc fabc 1 8b01
  fabd fabd 1 8afe fabe fabe 1 8aed fabf fabf 1 8b39 fac0 fac0 1 8b8a fac1 fac1 1 8d08
  fac2 fac2 1 8f38 fac3 fac3 1 9072 fac4 fac4 1 9199 fac5 fac5 1 9276 fac6 fac6 1 967c
  fac7 fac7 1 96e3 fac8 fac8 1 9756 fac9 fac9 1 97db faca faca 1 97ff facb facb 1 980b
  facc facc 1 983b facd facd 1 9b12 face face 1 9f9c facf facf 1 2284a fad0 fad0 1 22844
  fad1 fad1 1 233d5 fad2 fad2 1 3b9d fad3 fad3 1 4018 fad4 fad4 1 4039 fad5 fad5 1 25249
  fad6 fad6 1 25cd0 fad7 fad7 1 27ed3 fad8 fad8 1 9f43 fad9 fad9 1 9f8e fb20 fb20 1 5e2
  fb21 fb21 1 5d0 fb22 fb23 1 5d3 fb24 fb26 1 5db fb27 fb27 1 5e8 fb28 fb28 1 5ea fb29 fb29 1 2b
  fb50 fb50 1 671 fb51 fb51 1 671 fb52 fb52 1 67b fb53 fb53 1 67b fb54 fb54 1 67b fb55 fb55 1 67b
  fb56 fb56 1 67e fb57 fb57 1 67e fb58 fb5a 2 67e fb59 fb5b 2 67e fb5c fb5c 1 680 fb5d fb5d 1 680
  fb5e fb5e 1 67a fb5f fb5f 1 67a fb60 fb60 1 67a fb61 fb61 1 67a fb62 fb62 1 67f fb63 fb63 1 67f
  fb64 fb64 1 67f fb65 fb65 1 67f fb66 fb66 1 679 fb67 fb67 1 679 fb68 fb68 1 679 fb69 fb69 1 679
  fb6a fb6a 1 6a4 fb6b fb6b 1 6a4 fb6c fb6e 2 6a4 fb6d fb6f 2 6a4 fb70 fb70 1 6a6 fb71 fb71 1 6a6
  fb72 fb72 1 684 fb73 fb73 1 684 fb74 fb74 1 684 fb75 fb75 1 684 fb76 fb76 1 683 fb77 fb77 1 683
  fb78 fb78 1 683 fb79 fb79 1 683 fb7a fb7a 1 686 fb7b fb7b 1 686 fb7c fb7c 1 686 fb7d fb7e 1 686
  fb7f fb7f 1 687 fb80 fb80 1 687 fb81 fb81 1 687 fb82 fb82 1 68d fb83 fb83 1 68d fb84 fb86 2 68c
  fb85 fb87 2 68c fb88 fb88 1 688 fb89 fb89 1 688 fb8a fb8a 1 698 fb8b fb8b 1 698 fb8c fb8c 1 691
  fb8d fb8d 1 691 fb8e fb8e 1 6a9 fb8f fb8f 1 6a9 fb90 fb90 1 6a9 fb91 fb91 1 6a9 fb92 fb92 1 6af
  fb93 fb93 1 6af fb94 fb94 1 6af fb95 fb95 1 6af fb96 fb96 1 6b3 fb97 fb97 1 6b3 fb98 fb98 1 6b3
  fb99 fb99 1 6b3 fb9a fb9a 1 6b1 fb9b fb9b 1 6b1 fb9c fb9c 1 6b1 fb9d fb9d 1 6b1 fb9e fb9e 1 6ba
  fb9f fba0 1 6ba fba1 fba1 1 6bb fba2 fba2 1 6bb fba3 fba3 1 6bb fba4 fba4 1 6c0 fba5 fba6 1 6c0
  fba7 fba7 1 6c1 fba8 fba8 1 6c1 fba9 fba9 1 6c1 fbaa fbaa 1 6be fbab fbab 1 6be fbac fbac 1 6be
  fbad fbad 1 6be fbae fbae 1 6d2 fbaf fbb0 1 6d2 fbb1 fbb1 1 6d3 fbd3 fbd3 1 6ad fbd4 fbd4 1 6ad
  fbd5 fbd5 1 6ad fbd6 fbd6 1 6ad fbd7 fbd7 1 6c7 fbd8 fbd8 1 6c7 fbd9 fbdb 2 6c6 fbda fbdc 2 6c6
  fbde fbde 1 6cb fbdf fbdf 1 6cb fbe0 fbe0 1 6c5 fbe1 fbe1 1 6c5 fbe2 fbe2 1 6c9 fbe3 fbe3 1 6c9
  fbe4 fbe4 1 6d0 fbe5 fbe5 1 6d0 fbe6 fbe6 1 6d0 fbe7 fbe7 1 6d0 fbe8 fbe8 1 649 fbe9 fbe9 1 649
  fbfc fbfc 1 6cc fbfd fbfd 1 6cc fbfe fbfe 1 6cc fbff fbff 1 6cc fe10 fe10 1 2c fe11 fe11 1 3001
  fe13 fe14 1 3a fe15 fe15 1 21 fe16 fe16 1 3f fe17 fe18 1 3016 fe31 fe31 1 2014 fe32 fe32 1 2013
  fe33 fe33 1 5f fe34 fe34 1 5f fe35 fe36 1 28 fe37 fe37 1 7b fe38 fe38 1 7d fe39 fe3a 1 3014
  fe3b fe3c 1 3010 fe3d fe3e 1 300a fe3f fe40 1 3008 fe41 fe44 1 300c fe47 fe47 1 5b
  fe48 fe48 1 5d fe4d fe4d 1 5f fe4e fe4e 1 5f fe4f fe4f 1 5f fe50 fe50 1 2c fe51 fe51 1 3001
  fe54 fe54 1 3b fe55 fe55 1 3a fe56 fe56 1 3f fe57 fe57 1 21 fe58 fe58 1 2014 fe59 fe5a 1 28
  fe5b fe5b 1 7b fe5c fe5c 1 7d fe5d fe5e 1 3014 fe5f fe5f 1 23 fe60 fe60 1 26 fe61 fe62 1 2a
  fe63 fe63 1 2d fe64 fe64 1 3c fe65 fe65 1 3e fe66 fe66 1 3d fe68 fe68 1 5c fe69 fe6a 1 24
  fe6b fe6b 1 40 fe80 fe81 1 621 fe82 fe83 1 622 fe84 fe85 1 623 fe86 fe87 1 624 fe88 fe89 1 625
  fe8a fe8a 1 626 fe8b fe8b 1 626 fe8c fe8d 1 626 fe8e fe8f 1 627 fe90 fe90 1 628 fe91 fe91 1 628
  fe92 fe93 1 628 fe94 fe95 1 629 fe96 fe96 1 62a fe97 fe97 1 62a fe98 fe99 1 62a fe9a fe9a 1 62b
  fe9b fe9b 1 62b fe9c fe9d 1 62b fe9e fe9e 1 62c fe9f fe9f 1 62c fea0 fea1 1 62c fea2 fea2 1 62d
  fea3 fea3 1 62d fea4 fea5 1 62d fea6 fea6 1 62e fea7 fea7 1 62e fea8 fea9 1 62e feaa feab 1 62f
  feac fead 1 630 feae feaf 1 631 feb0 feb1 1 632 feb2 feb2 1 633 feb3 feb3 1 633 feb4 feb5 1 633
  feb6 feb6 1 634 feb7 feb7 1 634 feb8 feb9 1 634 feba feba 1 635 febb febb 1 635 febc febd 1 635
  febe febe 1 636 febf febf 1 636 fec0 fec1 1 636 fec2 fec2 1 637 fec3 fec3 1 637 fec4 fec5 1 637
  fec6 fec6 1 638 fec7 fec7 1 638 fec8 fec9 1 638 feca feca 1 639 fecb fecb 1 639 fecc fecd 1 639
  fece fece 1 63a fecf fecf 1 63a fed0 fed0 1 63a fed1 fed1 1 641 fed2 fed2 1 641 fed3 fed3 1 641
  fed4 fed5 1 641 fed6 fed6 1 642 fed7 fed7 1 642 fed8 fed9 1 642 feda feda 1 643 fedb fedb 1 643
  fedc fedd 1 643 fede fede 1 644 fedf fedf 1 644 fee0 fee1 1 644 fee2 fee2 1 645 fee3 fee3 1 645
  fee4 fee5 1 645 fee6 fee6 1 646 fee7 fee7 1 646 fee8 fee9 1 646 feea feea 1 647 feeb feeb 1 647
  feec feed 1 647 feee feef 1 648 fef0 fef1 1 649 fef2 fef2 1 64a fef3 fef3 1 64a fef4 fef4 1 64a
  ff01 ff20 1 21 ff21 ff3a 1 61 ff3b ff5e 1 5b ff5f ff60 1 2985 ff61 ff61 1 2e ff62 ff63 1 300c
  ff64 ff64 1 3001 ff65 ff65 1 30fb ff66 ff66 1 30f2 ff67 ff67 1 30a1 ff68 ff68 1 30a3
  ff69 ff69 1 30a5 ff6a ff6a 1 30a7 ff6b ff6b 1 30a9 ff6c ff6c 1 30e3 ff6d ff6d 1 30e5
  ff6e ff6e 1 30e7 ff6f ff6f 1 30c3 ff70 ff70 1 30fc ff71 ff71 1 30a2 ff72 ff72 1 30a4
  ff73 ff73 1 30a6 ff74 ff74 1 30a8 ff75 ff76 1 30aa ff77 ff77 1 30ad ff78 ff78 1 30af
  ff79 ff79 1 30b1 ff7a ff7a 1 30b3 ff7b ff7b 1 30b5 ff7c ff7c 1 30b7 ff7d ff7d 1 30b9
  ff7e ff7e 1 30bb ff7f ff7f 1 30bd ff80 ff80 1 30bf ff81 ff81 1 30c1 ff82 ff82 1 30c4
  ff83 ff83 1 30c6 ff84 ff84 1 30c8 ff85 ff8a 1 30ca ff8b ff8b 1 30d2 ff8c ff8c 1 30d5
  ff8d ff8d 1 30d8 ff8e ff8e 1 30db ff8f ff93 1 30de ff94 ff94 1 30e4 ff95 ff95 1 30e6
  ff96 ff9b 1 30e8 ff9c ff9c 1 30ef ff9d ff9d 1 30f3 ff9e ff9f 1 3099 ffa1 ffa2 1 1100
  ffa3 ffa5 2 11aa ffa4 ffa4 1 1102 ffa6 ffa6 1 11ad ffa7 ffa9 1 1103 ffaa ffaf 1 11b0
  ffb0 ffb0 1 111a ffb1 ffb3 1 1106 ffb4 ffb4 1 1121 ffb5 ffbe 1 1109 ffc2 ffc7 1 1161
  ffca ffcf 1 1167 ffd2 ffd7 1 116d ffda ffdc 1 1173 ffe0 ffe1 1 a2 ffe2 ffe2 1 ac ffe4 ffe4 1 a6
  ffe5 ffe5 1 a5 ffe6 ffe6 1 20a9 ffe8 ffe8 1 2502 ffe9 ffec 1 2190 ffed ffed 1 25a0
  ffee ffee 1 25cb 10400 10427 1 10428 104b0 104d3 1 104d8 10570 10594 2 10597 10571 10579 2 10598
  1057d 10589 2 105a4 1058d 10591 2 105b4 10595 10595 1 105bc 10781 10782 1 2d0 10783 10783 1 e6
  10784 10784 1 299 10785 10785 1 253 10787 10789 2 2a3 10788 10788 1 ab66 1078a 1078a 1 2a4
  1078b 1078c 1 256 1078d 1078d 1 1d91 1078e 1078e 1 258 1078f 1078f 1 25e 10790 10790 1 2a9
  10791 10791 1 264 10792 10792 1 262 10793 10793 1 260 10794 10794 1 29b 10795 10795 1 127
  10796 10796 1 29c 10797 10797 1 267 10798 10798 1 284 10799 1079a 1 2aa 1079b 1079b 1 26c
  1079c 1079c 1 1df04 1079d 1079d 1 a78e 1079e 1079e 1 26e 1079f 1079f 1 1df05 107a0 107a0 1 28e
  107a1 107a1 1 1df06 107a2 107a2 1 f8 107a3 107a4 1 276 107a5 107a5 1 71 107a6 107a6 1 27a
  107a7 107a7 1 1df08 107a8 107a9 1 27d 107aa 107aa 1 280 107ab 107ab 1 2a8 107ac 107ac 1 2a6
  107ad 107ad 1 ab67 107ae 107ae 1 2a7 107af 107af 1 288 107b0 107b0 1 2c71 107b2 107b2 1 28f
  107b3 107b4 1 2a1 107b5 107b5 1 298 107b6 107b8 1 1c0 107b9 107b9 1 1df0a 107ba 107ba 1 1df1e
  10c80 10cb2 1 10cc0 10d50 10d65 1 10d70 118a0 118bf 1 118c0 16e40 16e5f 1 16e60
  16ea0 16eb8 1 16ebb 1ccd6 1ccef 1 61 1ccf0 1ccf9 1 30 1d400 1d419 1 61 1d41a 1d433 1 61
  1d434 1d44d 1 61 1d44e 1d466 2 61 1d44f 1d453 2 62 1d457 1d467 2 6a 1d468 1d481 1 61
  1d482 1d49b 1 61 1d49c 1d49e 2 61 1d49f 1d49f 1 64 1d4a2 1d4a2 1 67 1d4a5 1d4a6 1 6a
  1d4a9 1d4ac 1 6e 1d4ae 1d4b5 1 73 1d4b6 1d4b9 1 61 1d4bb 1d4cf 2 66 1d4be 1d4c2 2 69
  1d4c6 1d4ce 2 71 1d4d0 1d4e9 1 61 1d4ea 1d503 1 61 1d504 1d505 1 61 1d507 1d50a 1 64
  1d50d 1d514 1 6a 1d516 1d51c 1 73 1d51e 1d537 1 61 1d538 1d539 1 61 1d53b 1d53e 1 64
  1d540 1d544 1 69 1d546 1d546 1 6f 1d54a 1d550 1 73 1d552 1d56b 1 61 1d56c 1d585 1 61
  1d586 1d59f 1 61 1d5a0 1d5b9 1 61 1d5ba 1d5d3 1 61 1d5d4 1d5ed 1 61 1d5ee 1d607 1 61
  1d608 1d621 1 61 1d622 1d63b 1 61 1d63c 1d655 1 61 1d656 1d66f 1 61 1d670 1d689 1 61
  1d68a 1d6a3 1 61 1d6a4 1d6a4 1 131 1d6a5 1d6a5 1 237 1d6a8 1d6b8 1 3b1 1d6b9 1d6b9 1 3b8
  1d6ba 1d6c0 1 3c3 1d6c1 1d6c1 1 2207 1d6c2 1d6d2 1 3b1 1d6d3 1d6d3 1 3c3 1d6d4 1d6da 1 3c3
  1d6db 1d6db 1 2202 1d6dc 1d6dc 1 3b5 1d6dd 1d6dd 1 3b8 1d6de 1d6de 1 3ba 1d6df 1d6df 1 3c6
  1d6e0 1d6e0 1 3c1 1d6e1 1d6e1 1 3c0 1d6e2 1d6f2 1 3b1 1d6f3 1d6f3 1 3b8 1d6f4 1d6fa 1 3c3
  1d6fb 1d6fb 1 2207 1d6fc 1d70c 1 3b1 1d70d 1d70d 1 3c3 1d70e 1d714 1 3c3 1d715 1d715 1 2202
  1d716 1d716 1 3b5 1d717 1d717 1 3b8 1d718 1d718 1 3ba 1d719 1d719 1 3c6 1d71a 1d71a 1 3c1
  1d71b 1d71b 1 3c0 1d71c 1d72c 1 3b1 1d72d 1d72d 1 3b8 1d72e 1d734 1 3c3 1d735 1d735 1 2207
  1d736 1d746 1 3b1 1d747 1d747 1 3c3 1d748 1d74e 1 3c3 1d74f 1d74f 1 2202 1d750 1d750 1 3b5
  1d751 1d751 1 3b8 1d752 1d752 1 3ba 1d753 1d753 1 3c6 1d754 1d754 1 3c1 1d755 1d755 1 3c0
  1d756 1d766 1 3b1 1d767 1d767 1 3b8 1d768 1d76e 1 3c3 1d76f 1d76f 1 2207 1d770 1d780 1 3b1
  1d781 1d781 1 3c3 1d782 1d788 1 3c3 1d789 1d789 1 2202 1d78a 1d78a 1 3b5 1d78b 1d78b 1 3b8
  1d78c 1d78c 1 3ba 1d78d 1d78d 1 3c6 1d78e 1d78e 1 3c1 1d78f 1d78f 1 3c0 1d790 1d7a0 1 3b1
  1d7a1 1d7a1 1 3b8 1d7a2 1d7a8 1 3c3 1d7a9 1d7a9 1 2207 1d7aa 1d7ba 1 3b1 1d7bb 1d7bb 1 3c3
  1d7bc 1d7c2 1 3c3 1d7c3 1d7c3 1 2202 1d7c4 1d7c4 1 3b5 1d7c5 1d7c5 1 3b8 1d7c6 1d7c6 1 3ba
  1d7c7 1d7c7 1 3c6 1d7c8 1d7c8 1 3c1 1d7c9 1d7c9 1 3c0 1d7ca 1d7ca 1 3dd 1d7cb 1d7cb 1 3dd
  1d7ce 1d7d7 1 30 1d7d8 1d7e1 1 30 1d7e2 1d7eb 1 30 1d7ec 1d7f5 1 30 1d7f6 1d7ff 1 30
  1e030 1e038 1 430 1e039 1e03b 1 43a 1e03c 1e046 1 43e 1e047 1e047 1 44b 1e048 1e049 1 44d
  1e04a 1e04a 1 a689 1e04b 1e04b 1 4d9 1e04c 1e04c 1 456 1e04d 1e04d 1 458 1e04e 1e04e 1 4e9
  1e04f 1e04f 1 4af 1e050 1e050 1 4cf 1e051 1e059 1 430 1e05a 1e05b 1 43a 1e05c 1e05d 1 43e
  1e05e 1e05e 1 441 1e05f 1e064 1 443 1e065 1e066 1 44a 1e067 1e067 1 491 1e068 1e068 1 456
  1e069 1e069 1 455 1e06a 1e06a 1 45f 1e06b 1e06b 1 4ab 1e06c 1e06c 1 a651 1e06d 1e06d 1 4b1
  1e900 1e921 1 1e922 1ee00 1ee01 1 627 1ee02 1ee02 1 62c 1ee03 1ee03 1 62f 1ee05 1ee05 1 648
  1ee06 1ee06 1 632 1ee07 1ee07 1 62d 1ee08 1ee08 1 637 1ee09 1ee09 1 64a 1ee0a 1ee0d 1 643
  1ee0e 1ee0e 1 633 1ee0f 1ee0f 1 639 1ee10 1ee10 1 641 1ee11 1ee11 1 635 1ee12 1ee12 1 642
  1ee13 1ee13 1 631 1ee14 1ee14 1 634 1ee15 1ee16 1 62a 1ee17 1ee17 1 62e 1ee18 1ee18 1 630
  1ee19 1ee19 1 636 1ee1a 1ee1a 1 638 1ee1b 1ee1b 1 63a 1ee1c 1ee1c 1 66e 1ee1d 1ee1d 1 6ba
  1ee1e 1ee1e 1 6a1 1ee1f 1ee1f 1 66f 1ee21 1ee21 1 628 1ee22 1ee22 1 62c 1ee24 1ee24 1 647
  1ee27 1ee27 1 62d 1ee29 1ee29 1 64a 1ee2a 1ee2d 1 643 1ee2e 1ee2e 1 633 1ee2f 1ee2f 1 639
  1ee30 1ee30 1 641 1ee31 1ee31 1 635 1ee32 1ee32 1 642 1ee34 1ee34 1 634 1ee35 1ee36 1 62a
  1ee37 1ee37 1 62e 1ee39 1ee39 1 636 1ee3b 1ee3b 1 63a 1ee42 1ee42 1 62c 1ee47 1ee47 1 62d
  1ee49 1ee49 1 64a 1ee4b 1ee4d 2 644 1ee4e 1ee4e 1 633 1ee4f 1ee4f 1 639 1ee51 1ee51 1 635
  1ee52 1ee52 1 642 1ee54 1ee54 1 634 1ee57 1ee57 1 62e 1ee59 1ee59 1 636 1ee5b 1ee5b 1 63a
  1ee5d 1ee5d 1 6ba 1ee5f 1ee5f 1 66f 1ee61 1ee61 1 628 1ee62 1ee62 1 62c 1ee64 1ee64 1 647
  1ee67 1ee67 1 62d 1ee68 1ee68 1 637 1ee69 1ee69 1 64a 1ee6a 1ee6c 2 643 1ee6d 1ee6d 1 646
  1ee6e 1ee6e 1 633 1ee6f 1ee6f 1 639 1ee70 1ee70 1 641 1ee71 1ee71 1 635 1ee72 1ee72 1 642
  1ee74 1ee74 1 634 1ee75 1ee76 1 62a 1ee77 1ee77 1 62e 1ee79 1ee79 1 636 1ee7a 1ee7a 1 638
  1ee7b 1ee7b 1 63a 1ee7c 1ee7c 1 66e 1ee7e 1ee7e 1 6a1 1ee80 1ee81 1 627 1ee82 1ee82 1 62c
  1ee83 1ee83 1 62f 1ee84 1ee85 1 647 1ee86 1ee86 1 632 1ee87 1ee87 1 62d 1ee88 1ee88 1 637
  1ee89 1ee89 1 64a 1ee8b 1ee8d 1 644 1ee8e 1ee8e 1 633 1ee8f 1ee8f 1 639 1ee90 1ee90 1 641
  1ee91 1ee91 1 635 1ee92 1ee92 1 642 1ee93 1ee93 1 631 1ee94 1ee94 1 634 1ee95 1ee96 1 62a
  1ee97 1ee97 1 62e 1ee98 1ee98 1 630 1ee99 1ee99 1 636 1ee9a 1ee9a 1 638 1ee9b 1ee9b 1 63a
  1eea1 1eea1 1 628 1eea2 1eea2 1 62c 1eea3 1eea3 1 62f 1eea5 1eea5 1 648 1eea6 1eea6 1 632
  1eea7 1eea7 1 62d 1eea8 1eea8 1 637 1eea9 1eea9 1 64a 1eeab 1eead 1 644 1eeae 1eeae 1 633
  1eeaf 1eeaf 1 639 1eeb0 1eeb0 1 641 1eeb1 1eeb1 1 635 1eeb2 1eeb2 1 642 1eeb3 1eeb3 1 631
  1eeb4 1eeb4 1 634 1eeb5 1eeb6 1 62a 1eeb7 1eeb7 1 62e 1eeb8 1eeb8 1 630 1eeb9 1eeb9 1 636
  1eeba 1eeba 1 638 1eebb 1eebb 1 63a 1f12b 1f12b 1 63 1f12c 1f12c 1 72 1f130 1f149 1 61
  1f202 1f202 1 30b5 1f210 1f210 1 624b 1f211 1f211 1 5b57 1f212 1f212 1 53cc 1f213 1f213 1 30c7
  1f214 1f214 1 4e8c 1f215 1f215 1 591a 1f216 1f216 1 89e3 1f217 1f217 1 5929 1f218 1f218 1 4ea4
  1f219 1f219 1 6620 1f21a 1f21a 1 7121 1f21b 1f21b 1 6599 1f21c 1f21c 1 524d 1f21d 1f21d 1 5f8c
  1f21e 1f21e 1 518d 1f21f 1f21f 1 65b0 1f220 1f220 1 521d 1f221 1f221 1 7d42 1f222 1f222 1 751f
  1f223 1f223 1 8ca9 1f224 1f224 1 58f0 1f225 1f225 1 5439 1f226 1f226 1 6f14 1f227 1f227 1 6295
  1f228 1f228 1 6355 1f229 1f229 1 4e00 1f22a 1f22a 1 4e09 1f22b 1f22b 1 904a 1f22c 1f22c 1 5de6
  1f22d 1f22d 1 4e2d 1f22e 1f22e 1 53f3 1f22f 1f22f 1 6307 1f230 1f230 1 8d70 1f231 1f231 1 6253
  1f232 1f232 1 7981 1f233 1f233 1 7a7a 1f234 1f234 1 5408 1f235 1f235 1 6e80 1f236 1f236 1 6709
  1f237 1f237 1 6708 1f238 1f238 1 7533 1f239 1f239 1 5272 1f23a 1f23a 1 55b6 1f23b 1f23b 1 914d
  1f250 1f250 1 5f97 1f251 1f251 1 53ef 1fbf0 1fbf9 1 30 2f800 2f800 1 4e3d 2f801 2f801 1 4e38
  2f802 2f802 1 4e41 2f803 2f803 1 20122 2f804 2f804 1 4f60 2f805 2f805 1 4fae 2f806 2f806 1 4fbb
  2f807 2f807 1 5002 2f808 2f808 1 507a 2f809 2f809 1 5099 2f80a 2f80a 1 50e7 2f80b 2f80b 1 50cf
  2f80c 2f80c 1 349e 2f80d 2f80d 1 2063a 2f80e 2f80e 1 514d 2f80f 2f80f 1 5154 2f810 2f810 1 5164
  2f811 2f811 1 5177 2f812 2f812 1 2051c 2f813 2f813 1 34b9 2f814 2f814 1 5167 2f815 2f815 1 518d
  2f816 2f816 1 2054b 2f817 2f817 1 5197 2f818 2f818 1 51a4 2f819 2f819 1 4ecc 2f81a 2f81a 1 51ac
  2f81b 2f81b 1 51b5 2f81c 2f81c 1 291df 2f81d 2f81d 1 51f5 2f81e 2f81e 1 5203 2f81f 2f81f 1 34df
  2f820 2f820 1 523b 2f821 2f821 1 5246 2f822 2f822 1 5272 2f823 2f823 1 5277 2f824 2f824 1 3515
  2f825 2f825 1 52c7 2f826 2f826 1 52c9 2f827 2f827 1 52e4 2f828 2f828 1 52fa 2f829 2f82a 1 5305
  2f82b 2f82b 1 5317 2f82c 2f82c 1 5349 2f82d 2f82d 1 5351 2f82e 2f82e 1 535a 2f82f 2f82f 1 5373
  2f830 2f832 2 537d 2f831 2f831 1 537f 2f833 2f833 1 537f 2f834 2f834 1 20a2c 2f835 2f835 1 7070
  2f836 2f836 1 53ca 2f837 2f837 1 53df 2f838 2f838 1 20b63 2f839 2f839 1 53eb 2f83a 2f83a 1 53f1
  2f83b 2f83b 1 5406 2f83c 2f83c 1 549e 2f83d 2f83d 1 5438 2f83e 2f83e 1 5448 2f83f 2f83f 1 5468
  2f840 2f840 1 54a2 2f841 2f841 1 54f6 2f842 2f842 1 5510 2f843 2f843 1 5553 2f844 2f844 1 5563
  2f845 2f845 1 5584 2f846 2f846 1 5584 2f847 2f847 1 5599 2f848 2f848 1 55ab 2f849 2f849 1 55b3
  2f84a 2f84a 1 55c2 2f84b 2f84b 1 5716 2f84c 2f84c 1 5606 2f84d 2f84d 1 5717 2f84e 2f84e 1 5651
  2f84f 2f84f 1 5674 2f850 2f850 1 5207 2f851 2f851 1 58ee 2f852 2f852 1 57ce 2f853 2f853 1 57f4
  2f854 2f854 1 580d 2f855 2f855 1 578b 2f856 2f856 1 5832 2f857 2f857 1 5831 2f858 2f858 1 58ac
  2f859 2f859 1 214e4 2f85a 2f85a 1 58f2 2f85b 2f85b 1 58f7 2f85c 2f85c 1 5906 2f85d 2f85d 1 591a
  2f85e 2f85e 1 5922 2f85f 2f85f 1 5962 2f860 2f860 1 216a8 2f861 2f861 1 216ea 2f862 2f862 1 59ec
  2f863 2f863 1 5a1b 2f864 2f864 1 5a27 2f865 2f865 1 59d8 2f866 2f866 1 5a66 2f867 2f867 1 36ee
  2f868 2f868 1 36fc 2f869 2f869 1 5b08 2f86a 2f86a 1 5b3e 2f86b 2f86b 1 5b3e 2f86c 2f86c 1 219c8
  2f86d 2f86d 1 5bc3 2f86e 2f86e 1 5bd8 2f86f 2f86f 1 5be7 2f870 2f870 1 5bf3 2f871 2f871 1 21b18
  2f872 2f872 1 5bff 2f873 2f873 1 5c06 2f874 2f874 1 5f53 2f875 2f875 1 5c22 2f876 2f876 1 3781
  2f877 2f877 1 5c60 2f878 2f878 1 5c6e 2f879 2f879 1 5cc0 2f87a 2f87a 1 5c8d 2f87b 2f87d 2 21de4
  2f87c 2f87c 1 5d43 2f87e 2f87e 1 5d6e 2f87f 2f87f 1 5d6b 2f880 2f880 1 5d7c 2f881 2f882 1 5de1
  2f883 2f883 1 382f 2f884 2f884 1 5dfd 2f885 2f885 1 5e28 2f886 2f886 1 5e3d 2f887 2f887 1 5e69
  2f888 2f888 1 3862 2f889 2f889 1 22183 2f88a 2f88a 1 387c 2f88b 2f88b 1 5eb0 2f88c 2f88c 1 5eb3
  2f88d 2f88d 1 5eb6 2f88e 2f88e 1 5eca 2f88f 2f88f 1 2a392 2f890 2f890 1 5efe 2f891 2f891 1 22331
  2f892 2f892 1 22331 2f893 2f893 1 8201 2f894 2f894 1 5f22 2f895 2f895 1 5f22 2f896 2f896 1 38c7
  2f897 2f897 1 232b8 2f898 2f898 1 261da 2f899 2f899 1 5f62 2f89a 2f89a 1 5f6b 2f89b 2f89b 1 38e3
  2f89c 2f89c 1 5f9a 2f89d 2f89d 1 5fcd 2f89e 2f89e 1 5fd7 2f89f 2f89f 1 5ff9 2f8a0 2f8a0 1 6081
  2f8a1 2f8a1 1 393a 2f8a2 2f8a2 1 391c 2f8a3 2f8a3 1 6094 2f8a4 2f8a4 1 226d4 2f8a5 2f8a5 1 60c7
  2f8a6 2f8a6 1 6148 2f8a7 2f8a7 1 614c 2f8a8 2f8a8 1 614e 2f8a9 2f8a9 1 614c 2f8aa 2f8aa 1 617a
  2f8ab 2f8ab 1 618e 2f8ac 2f8ac 1 61b2 2f8ad 2f8ad 1 61a4 2f8ae 2f8ae 1 61af 2f8af 2f8af 1 61de
  2f8b0 2f8b0 1 61f2 2f8b1 2f8b1 1 61f6 2f8b2 2f8b2 1 6210 2f8b3 2f8b3 1 621b 2f8b4 2f8b4 1 625d
  2f8b5 2f8b5 1 62b1 2f8b6 2f8b6 1 62d4 2f8b7 2f8b7 1 6350 2f8b8 2f8b8 1 22b0c 2f8b9 2f8b9 1 633d
  2f8ba 2f8ba 1 62fc 2f8bb 2f8bb 1 6368 2f8bc 2f8bc 1 6383 2f8bd 2f8bd 1 63e4 2f8be 2f8be 1 22bf1
  2f8bf 2f8bf 1 6422 2f8c0 2f8c0 1 63c5 2f8c1 2f8c1 1 63a9 2f8c2 2f8c2 1 3a2e 2f8c3 2f8c3 1 6469
  2f8c4 2f8c4 1 647e 2f8c5 2f8c5 1 649d 2f8c6 2f8c6 1 6477 2f8c7 2f8c7 1 3a6c 2f8c8 2f8c8 1 654f
  2f8c9 2f8c9 1 656c 2f8ca 2f8ca 1 2300a 2f8cb 2f8cb 1 65e3 2f8cc 2f8cc 1 66f8 2f8cd 2f8cd 1 6649
  2f8ce 2f8ce 1 3b19 2f8cf 2f8cf 1 6691 2f8d0 2f8d0 1 3b08 2f8d1 2f8d1 1 3ae4 2f8d2 2f8d2 1 5192
  2f8d3 2f8d3 1 5195 2f8d4 2f8d4 1 6700 2f8d5 2f8d5 1 669c 2f8d6 2f8d6 1 80ad 2f8d7 2f8d7 1 43d9
  2f8d8 2f8d8 1 6717 2f8d9 2f8d9 1 671b 2f8da 2f8da 1 6721 2f8db 2f8db 1 675e 2f8dc 2f8dc 1 6753
  2f8dd 2f8dd 1 233c3 2f8de 2f8de 1 3b49 2f8df 2f8df 1 67fa 2f8e0 2f8e0 1 6785 2f8e1 2f8e1 1 6852
  2f8e2 2f8e2 1 6885 2f8e3 2f8e3 1 2346d 2f8e4 2f8e4 1 688e 2f8e5 2f8e5 1 681f 2f8e6 2f8e6 1 6914
  2f8e7 2f8e7 1 3b9d 2f8e8 2f8e8 1 6942 2f8e9 2f8e9 1 69a3 2f8ea 2f8ea 1 69ea 2f8eb 2f8eb 1 6aa8
  2f8ec 2f8ec 1 236a3 2f8ed 2f8ed 1 6adb 2f8ee 2f8ee 1 3c18 2f8ef 2f8ef 1 6b21 2f8f0 2f8f0 1 238a7
  2f8f1 2f8f1 1 6b54 2f8f2 2f8f2 1 3c4e 2f8f3 2f8f3 1 6b72 2f8f4 2f8f4 1 6b9f 2f8f5 2f8f6 1 6bba
  2f8f7 2f8f7 1 23a8d 2f8f8 2f8f8 1 21d0b 2f8f9 2f8f9 1 23afa 2f8fa 2f8fa 1 6c4e
  2f8fb 2f8fb 1 23cbc 2f8fc 2f8fc 1 6cbf 2f8fd 2f8fd 1 6ccd 2f8fe 2f8fe 1 6c67 2f8ff 2f8ff 1 6d16
  2f900 2f900 1 6d3e 2f901 2f901 1 6d77 2f902 2f902 1 6d41 2f903 2f903 1 6d69 2f904 2f904 1 6d78
  2f905 2f905 1 6d85 2f906 2f906 1 23d1e 2f907 2f907 1 6d34 2f908 2f908 1 6e2f 2f909 2f909 1 6e6e
  2f90a 2f90a 1 3d33 2f90b 2f90b 1 6ecb 2f90c 2f90c 1 6ec7 2f90d 2f90d 1 23ed1 2f90e 2f90e 1 6df9
  2f90f 2f90f 1 6f6e 2f910 2f910 1 23f5e 2f911 2f911 1 23f8e 2f912 2f912 1 6fc6 2f913 2f913 1 7039
  2f914 2f914 1 701e 2f915 2f915 1 701b 2f916 2f916 1 3d96 2f917 2f917 1 704a 2f918 2f918 1 707d
  2f919 2f919 1 7077 2f91a 2f91a 1 70ad 2f91b 2f91b 1 20525 2f91c 2f91c 1 7145 2f91d 2f91d 1 24263
  2f91e 2f91e 1 719c 2f91f 2f91f 1 243ab 2f920 2f920 1 7228 2f921 2f921 1 7235 2f922 2f922 1 7250
  2f923 2f923 1 24608 2f924 2f924 1 7280 2f925 2f925 1 7295 2f926 2f926 1 24735
  2f927 2f927 1 24814 2f928 2f928 1 737a 2f929 2f929 1 738b 2f92a 2f92a 1 3eac 2f92b 2f92b 1 73a5
  2f92c 2f92c 1 3eb8 2f92d 2f92d 1 3eb8 2f92e 2f92e 1 7447 2f92f 2f92f 1 745c 2f930 2f930 1 7471
  2f931 2f931 1 7485 2f932 2f932 1 74ca 2f933 2f933 1 3f1b 2f934 2f934 1 7524 2f935 2f935 1 24c36
  2f936 2f936 1 753e 2f937 2f937 1 24c92 2f938 2f938 1 7570 2f939 2f939 1 2219f 2f93a 2f93a 1 7610
  2f93b 2f93b 1 24fa1 2f93c 2f93c 1 24fb8 2f93d 2f93d 1 25044 2f93e 2f93e 1 3ffc
  2f93f 2f93f 1 4008 2f940 2f940 1 76f4 2f941 2f941 1 250f3 2f942 2f942 1 250f2
  2f943 2f943 1 25119 2f944 2f944 1 25133 2f945 2f946 1 771e 2f947 2f947 1 771f 2f948 2f948 1 774a
  2f949 2f949 1 4039 2f94a 2f94a 1 778b 2f94b 2f94b 1 4046 2f94c 2f94c 1 4096 2f94d 2f94d 1 2541d
  2f94e 2f94e 1 784e 2f94f 2f94f 1 788c 2f950 2f950 1 78cc 2f951 2f951 1 40e3 2f952 2f952 1 25626
  2f953 2f953 1 7956 2f954 2f954 1 2569a 2f955 2f955 1 256c5 2f956 2f956 1 798f 2f957 2f957 1 79eb
  2f958 2f958 1 412f 2f959 2f959 1 7a40 2f95a 2f95a 1 7a4a 2f95b 2f95b 1 7a4f 2f95c 2f95c 1 2597c
  2f95d 2f95d 1 25aa7 2f95e 2f95e 1 25aa7 2f95f 2f95f 1 7aee 2f960 2f960 1 4202
  2f961 2f961 1 25bab 2f962 2f962 1 7bc6 2f963 2f963 1 7bc9 2f964 2f964 1 4227 2f965 2f965 1 25c80
  2f966 2f966 1 7cd2 2f967 2f967 1 42a0 2f968 2f968 1 7ce8 2f969 2f969 1 7ce3 2f96a 2f96a 1 7d00
  2f96b 2f96b 1 25f86 2f96c 2f96c 1 7d63 2f96d 2f96d 1 4301 2f96e 2f96e 1 7dc7 2f96f 2f96f 1 7e02
  2f970 2f970 1 7e45 2f971 2f971 1 4334 2f972 2f972 1 26228 2f973 2f973 1 26247 2f974 2f974 1 4359
  2f975 2f975 1 262d9 2f976 2f976 1 7f7a 2f977 2f977 1 2633e 2f978 2f978 1 7f95 2f979 2f979 1 7ffa
  2f97a 2f97a 1 8005 2f97b 2f97b 1 264da 2f97c 2f97c 1 26523 2f97d 2f97d 1 8060
  2f97e 2f97e 1 265a8 2f97f 2f97f 1 8070 2f980 2f980 1 2335f 2f981 2f981 1 43d5 2f982 2f982 1 80b2
  2f983 2f983 1 8103 2f984 2f984 1 440b 2f985 2f985 1 813e 2f986 2f986 1 5ab5 2f987 2f987 1 267a7
  2f988 2f988 1 267b5 2f989 2f989 1 23393 2f98a 2f98a 1 2339c 2f98b 2f98b 1 8201
  2f98c 2f98c 1 8204 2f98d 2f98d 1 8f9e 2f98e 2f98e 1 446b 2f98f 2f98f 1 8291 2f990 2f990 1 828b
  2f991 2f991 1 829d 2f992 2f992 1 52b3 2f993 2f993 1 82b1 2f994 2f994 1 82b3 2f995 2f995 1 82bd
  2f996 2f996 1 82e6 2f997 2f997 1 26b3c 2f998 2f998 1 82e5 2f999 2f999 1 831d 2f99a 2f99a 1 8363
  2f99b 2f99b 1 83ad 2f99c 2f99c 1 8323 2f99d 2f99d 1 83bd 2f99e 2f99e 1 83e7 2f99f 2f99f 1 8457
  2f9a0 2f9a0 1 8353 2f9a1 2f9a1 1 83ca 2f9a2 2f9a2 1 83cc 2f9a3 2f9a3 1 83dc 2f9a4 2f9a4 1 26c36
  2f9a5 2f9a5 1 26d6b 2f9a6 2f9a6 1 26cd5 2f9a7 2f9a7 1 452b 2f9a8 2f9a8 1 84f1 2f9a9 2f9a9 1 84f3
  2f9aa 2f9aa 1 8516 2f9ab 2f9ab 1 273ca 2f9ac 2f9ac 1 8564 2f9ad 2f9ad 1 26f2c 2f9ae 2f9ae 1 455d
  2f9af 2f9af 1 4561 2f9b0 2f9b0 1 26fb1 2f9b1 2f9b1 1 270d2 2f9b2 2f9b2 1 456b 2f9b3 2f9b3 1 8650
  2f9b4 2f9b4 1 865c 2f9b5 2f9b5 1 8667 2f9b6 2f9b6 1 8669 2f9b7 2f9b7 1 86a9 2f9b8 2f9b8 1 8688
  2f9b9 2f9b9 1 870e 2f9ba 2f9ba 1 86e2 2f9bb 2f9bb 1 8779 2f9bc 2f9bc 1 8728 2f9bd 2f9bd 1 876b
  2f9be 2f9be 1 8786 2f9bf 2f9bf 1 45d7 2f9c0 2f9c0 1 87e1 2f9c1 2f9c1 1 8801 2f9c2 2f9c2 1 45f9
  2f9c3 2f9c3 1 8860 2f9c4 2f9c4 1 8863 2f9c5 2f9c5 1 27667 2f9c6 2f9c6 1 88d7 2f9c7 2f9c7 1 88de
  2f9c8 2f9c8 1 4635 2f9c9 2f9c9 1 88fa 2f9ca 2f9ca 1 34bb 2f9cb 2f9cb 1 278ae 2f9cc 2f9cc 1 27966
  2f9cd 2f9cd 1 46be 2f9ce 2f9ce 1 46c7 2f9cf 2f9cf 1 8aa0 2f9d0 2f9d0 1 8aed 2f9d1 2f9d1 1 8b8a
  2f9d2 2f9d2 1 8c55 2f9d3 2f9d3 1 27ca8 2f9d4 2f9d4 1 8cab 2f9d5 2f9d5 1 8cc1 2f9d6 2f9d6 1 8d1b
  2f9d7 2f9d7 1 8d77 2f9d8 2f9d8 1 27f2f 2f9d9 2f9d9 1 20804 2f9da 2f9da 1 8dcb 2f9db 2f9db 1 8dbc
  2f9dc 2f9dc 1 8df0 2f9dd 2f9dd 1 208de 2f9de 2f9de 1 8ed4 2f9df 2f9df 1 8f38 2f9e0 2f9e0 1 285d2
  2f9e1 2f9e1 1 285ed 2f9e2 2f9e2 1 9094 2f9e3 2f9e3 1 90f1 2f9e4 2f9e4 1 9111 2f9e5 2f9e5 1 2872e
  2f9e6 2f9e6 1 911b 2f9e7 2f9e7 1 9238 2f9e8 2f9e9 1 92d7 2f9ea 2f9ea 1 927c 2f9eb 2f9eb 1 93f9
  2f9ec 2f9ec 1 9415 2f9ed 2f9ed 1 28bfa 2f9ee 2f9ee 1 958b 2f9ef 2f9ef 1 4995 2f9f0 2f9f0 1 95b7
  2f9f1 2f9f1 1 28d77 2f9f2 2f9f2 1 49e6 2f9f3 2f9f3 1 96c3 2f9f4 2f9f4 1 5db2 2f9f5 2f9f5 1 9723
  2f9f6 2f9f6 1 29145 2f9f7 2f9f7 1 2921a 2f9f8 2f9f8 1 4a6e 2f9f9 2f9f9 1 4a76 2f9fa 2f9fa 1 97e0
  2f9fb 2f9fb 1 2940a 2f9fc 2f9fc 1 4ab2 2f9fd 2f9fd 1 29496 2f9fe 2f9fe 1 980b 2f9ff 2f9ff 1 980b
  2fa00 2fa00 1 9829 2fa01 2fa01 1 295b6 2fa02 2fa02 1 98e2 2fa03 2fa03 1 4b33 2fa04 2fa04 1 9929
  2fa05 2fa05 1 99a7 2fa06 2fa06 1 99c2 2fa07 2fa07 1 99fe 2fa08 2fa08 1 4bce 2fa09 2fa09 1 29b30
  2fa0a 2fa0a 1 9b12 2fa0b 2fa0b 1 9c40 2fa0c 2fa0c 1 9cfd 2fa0d 2fa0d 1 4cce 2fa0e 2fa0e 1 4ced
  2fa0f 2fa0f 1 9d67 2fa10 2fa10 1 2a0ce 2fa11 2fa11 1 4cf8 2fa12 2fa12 1 2a105
  2fa13 2fa13 1 2a20e 2fa14 2fa14 1 2a291 2fa15 2fa15 1 9ebb 2fa16 2fa16 1 4d56 2fa17 2fa17 1 9ef9
  2fa18 2fa18 1 9efe 2fa19 2fa19 1 9f05 2fa1a 2fa1a 1 9f0f 2fa1b 2fa1b 1 9f16 2fa1c 2fa1c 1 9f3b
  2fa1d 2fa1d 1 2a600"

/-- Characters that stand for a text of another length: the character, the length, the text. -/
def domainTexts : Replacements := .ofText "
  a8 2 20 308 af 2 20 304 b4 2 20 301 b8 2 20 327 bc 3 31 2044 34 bd 3 31 2044 32 be 3 33 2044 34
  130 2 69 307 132 2 69 6a 133 2 69 6a 13f 2 6c b7 140 2 6c b7 149 2 2bc 6e 1c4 2 64 17e
  1c5 2 64 17e 1c6 2 64 17e 1c7 2 6c 6a 1c8 2 6c 6a 1c9 2 6c 6a 1ca 2 6e 6a 1cb 2 6e 6a
  1cc 2 6e 6a 1f1 2 64 7a 1f2 2 64 7a 1f3 2 64 7a 2d8 2 20 306 2d9 2 20 307 2da 2 20 30a
  2db 2 20 328 2dc 2 20 303 2dd 2 20 30b 344 2 308 301 37a 2 20 3b9 384 2 20 301 385 3 20 308 301
  587 2 565 582 675 2 627 674 676 2 648 674 677 2 6c7 674 678 2 64a 674 958 2 915 93c
  959 2 916 93c 95a 2 917 93c 95b 2 91c 93c 95c 2 921 93c 95d 2 922 93c 95e 2 92b 93c
  95f 2 92f 93c 9dc 2 9a1 9bc 9dd 2 9a2 9bc 9df 2 9af 9bc a33 2 a32 a3c a36 2 a38 a3c
  a59 2 a16 a3c a5a 2 a17 a3c a5b 2 a1c a3c a5e 2 a2b a3c b5c 2 b21 b3c b5d 2 b22 b3c
  e33 2 e4d e32 eb3 2 ecd eb2 edc 2 eab e99 edd 2 eab ea1 f43 2 f42 fb7 f4d 2 f4c fb7
  f52 2 f51 fb7 f57 2 f56 fb7 f5c 2 f5b fb7 f69 2 f40 fb5 f73 2 f71 f72 f75 2 f71 f74
  f76 2 fb2 f80 f77 3 fb2 f71 f80 f78 2 fb3 f80 f79 3 fb3 f71 f80 f81 2 f71 f80 f93 2 f92 fb7
  f9d 2 f9c fb7 fa2 2 fa1 fb7 fa7 2 fa6 fb7 fac 2 fab fb7 fb9 2 f90 fb5 1e9a 2 61 2be
  1f80 2 1f00 3b9 1f81 2 1f01 3b9 1f82 2 1f02 3b9 1f83 2 1f03 3b9 1f84 2 1f04 3b9 1f85 2 1f05 3b9
  1f86 2 1f06 3b9 1f87 2 1f07 3b9 1f88 2 1f00 3b9 1f89 2 1f01 3b9 1f8a 2 1f02 3b9 1f8b 2 1f03 3b9
  1f8c 2 1f04 3b9 1f8d 2 1f05 3b9 1f8e 2 1f06 3b9 1f8f 2 1f07 3b9 1f90 2 1f20 3b9 1f91 2 1f21 3b9
  1f92 2 1f22 3b9 1f93 2 1f23 3b9 1f94 2 1f24 3b9 1f95 2 1f25 3b9 1f96 2 1f26 3b9 1f97 2 1f27 3b9
  1f98 2 1f20 3b9 1f99 2 1f21 3b9 1f9a 2 1f22 3b9 1f9b 2 1f23 3b9 1f9c 2 1f24 3b9 1f9d 2 1f25 3b9
  1f9e 2 1f26 3b9 1f9f 2 1f27 3b9 1fa0 2 1f60 3b9 1fa1 2 1f61 3b9 1fa2 2 1f62 3b9 1fa3 2 1f63 3b9
  1fa4 2 1f64 3b9 1fa5 2 1f65 3b9 1fa6 2 1f66 3b9 1fa7 2 1f67 3b9 1fa8 2 1f60 3b9 1fa9 2 1f61 3b9
  1faa 2 1f62 3b9 1fab 2 1f63 3b9 1fac 2 1f64 3b9 1fad 2 1f65 3b9 1fae 2 1f66 3b9 1faf 2 1f67 3b9
  1fb2 2 1f70 3b9 1fb3 2 3b1 3b9 1fb4 2 3ac 3b9 1fb7 2 1fb6 3b9 1fbc 2 3b1 3b9 1fbd 2 20 313
  1fbf 2 20 313 1fc0 2 20 342 1fc1 3 20 308 342 1fc2 2 1f74 3b9 1fc3 2 3b7 3b9 1fc4 2 3ae 3b9
  1fc7 2 1fc6 3b9 1fcc 2 3b7 3b9 1fcd 3 20 313 300 1fce 3 20 313 301 1fcf 3 20 313 342
  1fdd 3 20 314 300 1fde 3 20 314 301 1fdf 3 20 314 342 1fed 3 20 308 300 1fee 3 20 308 301
  1ff2 2 1f7c 3b9 1ff3 2 3c9 3b9 1ff4 2 3ce 3b9 1ff7 2 1ff6 3b9 1ffc 2 3c9 3b9 1ffd 2 20 301
  1ffe 2 20 314 2017 2 20 333 2033 2 2032 2032 2034 3 2032 2032 2032 2036 2 2035 2035
  2037 3 2035 2035 2035 203c 2 21 21 203e 2 20 305 2047 2 3f 3f 2048 2 3f 21 2049 2 21 3f
  2057 4 2032 2032 2032 2032 20a8 2 72 73 2100 3 61 2f 63 2101 3 61 2f 73 2103 2 b0 63
  2105 3 63 2f 6f 2106 3 63 2f 75 2109 2 b0 66 2116 2 6e 6f 2120 2 73 6d 2121 3 74 65 6c
  2122 2 74 6d 213b 3 66 61 78 2150 3 31 2044 37 2151 3 31 2044 39 2152 4 31 2044 31 30
  2153 3 31 2044 33 2154 3 32 2044 33 2155 3 31 2044 35 2156 3 32 2044 35 2157 3 33 2044 35
  2158 3 34 2044 35 2159 3 31 2044 36 215a 3 35 2044 36 215b 3 31 2044 38 215c 3 33 2044 38
  215d 3 35 2044 38 215e 3 37 2044 38 215f 2 31 2044 2161 2 69 69 2162 3 69 69 69 2163 2 69 76
  2165 2 76 69 2166 3 76 69 69 2167 4 76 69 69 69 2168 2 69 78 216a 2 78 69 216b 3 78 69 69
  2171 2 69 69 2172 3 69 69 69 2173 2 69 76 2175 2 76 69 2176 3 76 69 69 2177 4 76 69 69 69
  2178 2 69 78 217a 2 78 69 217b 3 78 69 69 2189 3 30 2044 33 222c 2 222b 222b
  222d 3 222b 222b 222b 222f 2 222e 222e 2230 3 222e 222e 222e 2469 2 31 30 246a 2 31 31
  246b 2 31 32 246c 2 31 33 246d 2 31 34 246e 2 31 35 246f 2 31 36 2470 2 31 37 2471 2 31 38
  2472 2 31 39 2473 2 32 30 2474 3 28 31 29 2475 3 28 32 29 2476 3 28 33 29 2477 3 28 34 29
  2478 3 28 35 29 2479 3 28 36 29 247a 3 28 37 29 247b 3 28 38 29 247c 3 28 39 29
  247d 4 28 31 30 29 247e 4 28 31 31 29 247f 4 28 31 32 29 2480 4 28 31 33 29 2481 4 28 31 34 29
  2482 4 28 31 35 29 2483 4 28 31 36 29 2484 4 28 31 37 29 2485 4 28 31 38 29 2486 4 28 31 39 29
  2487 4 28 32 30 29 249c 3 28 61 29 249d 3 28 62 29 249e 3 28 63 29 249f 3 28 64 29
  24a0 3 28 65 29 24a1 3 28 66 29 24a2 3 28 67 29 24a3 3 28 68 29 24a4 3 28 69 29 24a5 3 28 6a 29
  24a6 3 28 6b 29 24a7 3 28 6c 29 24a8 3 28 6d 29 24a9 3 28 6e 29 24aa 3 28 6f 29 24ab 3 28 70 29
  24ac 3 28 71 29 24ad 3 28 72 29 24ae 3 28 73 29 24af 3 28 74 29 24b0 3 28 75 29 24b1 3 28 76 29
  24b2 3 28 77 29 24b3 3 28 78 29 24b4 3 28 79 29 24b5 3 28 7a 29 2a0c 4 222b 222b 222b 222b
  2a74 3 3a 3a 3d 2a75 2 3d 3d 2a76 3 3d 3d 3d 2adc 2 2add 338 309b 2 20 3099 309c 2 20 309a
  309f 2 3088 308a 30ff 2 30b3 30c8 3200 3 28 1100 29 3201 3 28 1102 29 3202 3 28 1103 29
  3203 3 28 1105 29 3204 3 28 1106 29 3205 3 28 1107 29 3206 3 28 1109 29 3207 3 28 110b 29
  3208 3 28 110c 29 3209 3 28 110e 29 320a 3 28 110f 29 320b 3 28 1110 29 320c 3 28 1111 29
  320d 3 28 1112 29 320e 3 28 ac00 29 320f 3 28 b098 29 3210 3 28 b2e4 29 3211 3 28 b77c 29
  3212 3 28 b9c8 29 3213 3 28 bc14 29 3214 3 28 c0ac 29 3215 3 28 c544 29 3216 3 28 c790 29
  3217 3 28 cc28 29 3218 3 28 ce74 29 3219 3 28 d0c0 29 321a 3 28 d30c 29 321b 3 28 d558 29
  321c 3 28 c8fc 29 321d 4 28 c624 c804 29 321e 4 28 c624 d6c4 29 3220 3 28 4e00 29
  3221 3 28 4e8c 29 3222 3 28 4e09 29 3223 3 28 56db 29 3224 3 28 4e94 29 3225 3 28 516d 29
  3226 3 28 4e03 29 3227 3 28 516b 29 3228 3 28 4e5d 29 3229 3 28 5341 29 322a 3 28 6708 29
  322b 3 28 706b 29 322c 3 28 6c34 29 322d 3 28 6728 29 322e 3 28 91d1 29 322f 3 28 571f 29
  3230 3 28 65e5 29 3231 3 28 682a 29 3232 3 28 6709 29 3233 3 28 793e 29 3234 3 28 540d 29
  3235 3 28 7279 29 3236 3 28 8ca1 29 3237 3 28 795d 29 3238 3 28 52b4 29 3239 3 28 4ee3 29
  323a 3 28 547c 29 323b 3 28 5b66 29 323c 3 28 76e3 29 323d 3 28 4f01 29 323e 3 28 8cc7 29
  323f 3 28 5354 29 3240 3 28 796d 29 3241 3 28 4f11 29 3242 3 28 81ea 29 3243 3 28 81f3 29
  3250 3 70 74 65 3251 2 32 31 3252 2 32 32 3253 2 32 33 3254 2 32 34 3255 2 32 35 3256 2 32 36
  3257 2 32 37 3258 2 32 38 3259 2 32 39 325a 2 33 30 325b 2 33 31 325c 2 33 32 325d 2 33 33
  325e 2 33 34 325f 2 33 35 327c 2 cc38 ace0 327d 2 c8fc c758 32b1 2 33 36 32b2 2 33 37
  32b3 2 33 38 32b4 2 33 39 32b5 2 34 30 32b6 2 34 31 32b7 2 34 32 32b8 2 34 33 32b9 2 34 34
  32ba 2 34 35 32bb 2 34 36 32bc 2 34 37 32bd 2 34 38 32be 2 34 39 32bf 2 35 30 32c0 2 31 6708
  32c1 2 32 6708 32c2 2 33 6708 32c3 2 34 6708 32c4 2 35 6708 32c5 2 36 6708 32c6 2 37 6708
  32c7 2 38 6708 32c8 2 39 6708 32c9 3 31 30 6708 32ca 3 31 31 6708 32cb 3 31 32 6708 32cc 2 68 67
  32cd 3 65 72 67 32ce 2 65 76 32cf 3 6c 74 64 32ff 2 4ee4 548c 3300 4 30a2 30d1 30fc 30c8
  3301 4 30a2 30eb 30d5 30a1 3302 4 30a2 30f3 30da 30a2 3303 3 30a2 30fc 30eb
  3304 4 30a4 30cb 30f3 30b0 3305 3 30a4 30f3 30c1 3306 3 30a6 30a9 30f3
  3307 5 30a8 30b9 30af 30fc 30c9 3308 4 30a8 30fc 30ab 30fc 3309 3 30aa 30f3 30b9
  330a 3 30aa 30fc 30e0 330b 3 30ab 30a4 30ea 330c 4 30ab 30e9 30c3 30c8
  330d 4 30ab 30ed 30ea 30fc 330e 3 30ac 30ed 30f3 330f 3 30ac 30f3 30de 3310 2 30ae 30ac
  3311 3 30ae 30cb 30fc 3312 4 30ad 30e5 30ea 30fc 3313 4 30ae 30eb 30c0 30fc 3314 2 30ad 30ed
  3315 5 30ad 30ed 30b0 30e9 30e0 3316 6 30ad 30ed 30e1 30fc 30c8 30eb
  3317 5 30ad 30ed 30ef 30c3 30c8 3318 3 30b0 30e9 30e0 3319 5 30b0 30e9 30e0 30c8 30f3
  331a 5 30af 30eb 30bc 30a4 30ed 331b 4 30af 30ed 30fc 30cd 331c 3 30b1 30fc 30b9
  331d 3 30b3 30eb 30ca 331e 3 30b3 30fc 30dd 331f 4 30b5 30a4 30af 30eb
  3320 5 30b5 30f3 30c1 30fc 30e0 3321 4 30b7 30ea 30f3 30b0 3322 3 30bb 30f3 30c1
  3323 3 30bb 30f3 30c8 3324 3 30c0 30fc 30b9 3325 2 30c7 30b7 3326 2 30c9 30eb 3327 2 30c8 30f3
  3328 2 30ca 30ce 3329 3 30ce 30c3 30c8 332a 3 30cf 30a4 30c4 332b 5 30d1 30fc 30bb 30f3 30c8
  332c 3 30d1 30fc 30c4 332d 4 30d0 30fc 30ec 30eb 332e 5 30d4 30a2 30b9 30c8 30eb
  332f 3 30d4 30af 30eb 3330 2 30d4 30b3 3331 2 30d3 30eb 3332 5 30d5 30a1 30e9 30c3 30c9
  3333 4 30d5 30a3 30fc 30c8 3334 5 30d6 30c3 30b7 30a7 30eb 3335 3 30d5 30e9 30f3
  3336 5 30d8 30af 30bf 30fc 30eb 3337 2 30da 30bd 3338 3 30da 30cb 30d2 3339 3 30d8 30eb 30c4
  333a 3 30da 30f3 30b9 333b 3 30da 30fc 30b8 333c 3 30d9 30fc 30bf 333d 4 30dd 30a4 30f3 30c8
  333e 3 30dc 30eb 30c8 333f 2 30db 30f3 3340 3 30dd 30f3 30c9 3341 3 30db 30fc 30eb
  3342 3 30db 30fc 30f3 3343 4 30de 30a4 30af 30ed 3344 3 30de 30a4 30eb 3345 3 30de 30c3 30cf
  3346 3 30de 30eb 30af 3347 5 30de 30f3 30b7 30e7 30f3 3348 4 30df 30af 30ed 30f3
  3349 2 30df 30ea 334a 5 30df 30ea 30d0 30fc 30eb 334b 2 30e1 30ac 334c 4 30e1 30ac 30c8 30f3
  334d 4 30e1 30fc 30c8 30eb 334e 3 30e4 30fc 30c9 334f 3 30e4 30fc 30eb 3350 3 30e6 30a2 30f3
  3351 4 30ea 30c3 30c8 30eb 3352 2 30ea 30e9 3353 3 30eb 30d4 30fc 3354 4 30eb 30fc 30d6 30eb
  3355 2 30ec 30e0 3356 5 30ec 30f3 30c8 30b2 30f3 3357 3 30ef 30c3 30c8 3358 2 30 70b9
  3359 2 31 70b9 335a 2 32 70b9 335b 2 33 70b9 335c 2 34 70b9 335d 2 35 70b9 335e 2 36 70b9
  335f 2 37 70b9 3360 2 38 70b9 3361 2 39 70b9 3362 3 31 30 70b9 3363 3 31 31 70b9
  3364 3 31 32 70b9 3365 3 31 33 70b9 3366 3 31 34 70b9 3367 3 31 35 70b9 3368 3 31 36 70b9
  3369 3 31 37 70b9 336a 3 31 38 70b9 336b 3 31 39 70b9 336c 3 32 30 70b9 336d 3 32 31 70b9
  336e 3 32 32 70b9 336f 3 32 33 70b9 3370 3 32 34 70b9 3371 3 68 70 61 3372 2 64 61 3373 2 61 75
  3374 3 62 61 72 3375 2 6f 76 3376 2 70 63 3377 2 64 6d 3378 3 64 6d 32 3379 3 64 6d 33
  337a 2 69 75 337b 2 5e73 6210 337c 2 662d 548c 337d 2 5927 6b63 337e 2 660e 6cbb
  337f 4 682a 5f0f 4f1a 793e 3380 2 70 61 3381 2 6e 61 3382 2 3bc 61 3383 2 6d 61 3384 2 6b 61
  3385 2 6b 62 3386 2 6d 62 3387 2 67 62 3388 3 63 61 6c 3389 4 6b 63 61 6c 338a 2 70 66
  338b 2 6e 66 338c 2 3bc 66 338d 2 3bc 67 338e 2 6d 67 338f 2 6b 67 3390 2 68 7a 3391 3 6b 68 7a
  3392 3 6d 68 7a 3393 3 67 68 7a 3394 3 74 68 7a 3395 2 3bc 6c 3396 2 6d 6c 3397 2 64 6c
  3398 2 6b 6c 3399 2 66 6d 339a 2 6e 6d 339b 2 3bc 6d 339c 2 6d 6d 339d 2 63 6d 339e 2 6b 6d
  339f 3 6d 6d 32 33a0 3 63 6d 32 33a1 2 6d 32 33a2 3 6b 6d 32 33a3 3 6d 6d 33 33a4 3 63 6d 33
  33a5 2 6d 33 33a6 3 6b 6d 33 33a7 3 6d 2215 73 33a8 4 6d 2215 73 32 33a9 2 70 61 33aa 3 6b 70 61
  33ab 3 6d 70 61 33ac 3 67 70 61 33ad 3 72 61 64 33ae 5 72 61 64 2215 73
  33af 6 72 61 64 2215 73 32 33b0 2 70 73 33b1 2 6e 73 33b2 2 3bc 73 33b3 2 6d 73 33b4 2 70 76
  33b5 2 6e 76 33b6 2 3bc 76 33b7 2 6d 76 33b8 2 6b 76 33b9 2 6d 76 33ba 2 70 77 33bb 2 6e 77
  33bc 2 3bc 77 33bd 2 6d 77 33be 2 6b 77 33bf 2 6d 77 33c0 2 6b 3c9 33c1 2 6d 3c9 33c3 2 62 71
  33c4 2 63 63 33c5 2 63 64 33c6 4 63 2215 6b 67 33c8 2 64 62 33c9 2 67 79 33ca 2 68 61
  33cb 2 68 70 33cc 2 69 6e 33cd 2 6b 6b 33ce 2 6b 6d 33cf 2 6b 74 33d0 2 6c 6d 33d1 2 6c 6e
  33d2 3 6c 6f 67 33d3 2 6c 78 33d4 2 6d 62 33d5 3 6d 69 6c 33d6 3 6d 6f 6c 33d7 2 70 68
  33d9 3 70 70 6d 33da 2 70 72 33db 2 73 72 33dc 2 73 76 33dd 2 77 62 33de 3 76 2215 6d
  33df 3 61 2215 6d 33e0 2 31 65e5 33e1 2 32 65e5 33e2 2 33 65e5 33e3 2 34 65e5 33e4 2 35 65e5
  33e5 2 36 65e5 33e6 2 37 65e5 33e7 2 38 65e5 33e8 2 39 65e5 33e9 3 31 30 65e5 33ea 3 31 31 65e5
  33eb 3 31 32 65e5 33ec 3 31 33 65e5 33ed 3 31 34 65e5 33ee 3 31 35 65e5 33ef 3 31 36 65e5
  33f0 3 31 37 65e5 33f1 3 31 38 65e5 33f2 3 31 39 65e5 33f3 3 32 30 65e5 33f4 3 32 31 65e5
  33f5 3 32 32 65e5 33f6 3 32 33 65e5 33f7 3 32 34 65e5 33f8 3 32 35 65e5 33f9 3 32 36 65e5
  33fa 3 32 37 65e5 33fb 3 32 38 65e5 33fc 3 32 39 65e5 33fd 3 33 30 65e5 33fe 3 33 31 65e5
  33ff 3 67 61 6c fb00 2 66 66 fb01 2 66 69 fb02 2 66 6c fb03 3 66 66 69 fb04 3 66 66 6c
  fb05 2 73 74 fb06 2 73 74 fb13 2 574 576 fb14 2 574 565 fb15 2 574 56b fb16 2 57e 576
  fb17 2 574 56d fb1d 2 5d9 5b4 fb1f 2 5f2 5b7 fb2a 2 5e9 5c1 fb2b 2 5e9 5c2 fb2c 3 5e9 5bc 5c1
  fb2d 3 5e9 5bc 5c2 fb2e 2 5d0 5b7 fb2f 2 5d0 5b8 fb30 2 5d0 5bc fb31 2 5d1 5bc fb32 2 5d2 5bc
  fb33 2 5d3 5bc fb34 2 5d4 5bc fb35 2 5d5 5bc fb36 2 5d6 5bc fb38 2 5d8 5bc fb39 2 5d9 5bc
  fb3a 2 5da 5bc fb3b 2 5db 5bc fb3c 2 5dc 5bc fb3e 2 5de 5bc fb40 2 5e0 5bc fb41 2 5e1 5bc
  fb43 2 5e3 5bc fb44 2 5e4 5bc fb46 2 5e6 5bc fb47 2 5e7 5bc fb48 2 5e8 5bc fb49 2 5e9 5bc
  fb4a 2 5ea 5bc fb4b 2 5d5 5b9 fb4c 2 5d1 5bf fb4d 2 5db 5bf fb4e 2 5e4 5bf fb4f 2 5d0 5dc
  fbdd 2 6c7 674 fbea 2 626 627 fbeb 2 626 627 fbec 2 626 6d5 fbed 2 626 6d5 fbee 2 626 648
  fbef 2 626 648 fbf0 2 626 6c7 fbf1 2 626 6c7 fbf2 2 626 6c6 fbf3 2 626 6c6 fbf4 2 626 6c8
  fbf5 2 626 6c8 fbf6 2 626 6d0 fbf7 2 626 6d0 fbf8 2 626 6d0 fbf9 2 626 649 fbfa 2 626 649
  fbfb 2 626 649 fc00 2 626 62c fc01 2 626 62d fc02 2 626 645 fc03 2 626 649 fc04 2 626 64a
  fc05 2 628 62c fc06 2 628 62d fc07 2 628 62e fc08 2 628 645 fc09 2 628 649 fc0a 2 628 64a
  fc0b 2 62a 62c fc0c 2 62a 62d fc0d 2 62a 62e fc0e 2 62a 645 fc0f 2 62a 649 fc10 2 62a 64a
  fc11 2 62b 62c fc12 2 62b 645 fc13 2 62b 649 fc14 2 62b 64a fc15 2 62c 62d fc16 2 62c 645
  fc17 2 62d 62c fc18 2 62d 645 fc19 2 62e 62c fc1a 2 62e 62d fc1b 2 62e 645 fc1c 2 633 62c
  fc1d 2 633 62d fc1e 2 633 62e fc1f 2 633 645 fc20 2 635 62d fc21 2 635 645 fc22 2 636 62c
  fc23 2 636 62d fc24 2 636 62e fc25 2 636 645 fc26 2 637 62d fc27 2 637 645 fc28 2 638 645
  fc29 2 639 62c fc2a 2 639 645 fc2b 2 63a 62c fc2c 2 63a 645 fc2d 2 641 62c fc2e 2 641 62d
  fc2f 2 641 62e fc30 2 641 645 fc31 2 641 649 fc32 2 641 64a fc33 2 642 62d fc34 2 642 645
  fc35 2 642 649 fc36 2 642 64a fc37 2 643 627 fc38 2 643 62c fc39 2 643 62d fc3a 2 643 62e
  fc3b 2 643 644 fc3c 2 643 645 fc3d 2 643 649 fc3e 2 643 64a fc3f 2 644 62c fc40 2 644 62d
  fc41 2 644 62e fc42 2 644 645 fc43 2 644 649 fc44 2 644 64a fc45 2 645 62c fc46 2 645 62d
  fc47 2 645 62e fc48 2 645 645 fc49 2 645 649 fc4a 2 645 64a fc4b 2 646 62c fc4c 2 646 62d
  fc4d 2 646 62e fc4e 2 646 645 fc4f 2 646 649 fc50 2 646 64a fc51 2 647 62c fc52 2 647 645
  fc53 2 647 649 fc54 2 647 64a fc55 2 64a 62c fc56 2 64a 62d fc57 2 64a 62e fc58 2 64a 645
  fc59 2 64a 649 fc5a 2 64a 64a fc5b 2 630 670 fc5c 2 631 670 fc5d 2 649 670 fc5e 3 20 64c 651
  fc5f 3 20 64d 651 fc60 3 20 64e 651 fc61 3 20 64f 651 fc62 3 20 650 651 fc63 3 20 651 670
  fc64 2 626 631 fc65 2 626 632 fc66 2 626 645 fc67 2 626 646 fc68 2 626 649 fc69 2 626 64a
  fc6a 2 628 631 fc6b 2 628 632 fc6c 2 628 645 fc6d 2 628 646 fc6e 2 628 649 fc6f 2 628 64a
  fc70 2 62a 631 fc71 2 62a 632 fc72 2 62a 645 fc73 2 62a 646 fc74 2 62a 649 fc75 2 62a 64a
  fc76 2 62b 631 fc77 2 62b 632 fc78 2 62b 645 fc79 2 62b 646 fc7a 2 62b 649 fc7b 2 62b 64a
  fc7c 2 641 649 fc7d 2 641 64a fc7e 2 642 649 fc7f 2 642 64a fc80 2 643 627 fc81 2 643 644
  fc82 2 643 645 fc83 2 643 649 fc84 2 643 64a fc85 2 644 645 fc86 2 644 649 fc87 2 644 64a
  fc88 2 645 627 fc89 2 645 645 fc8a 2 646 631 fc8b 2 646 632 fc8c 2 646 645 fc8d 2 646 646
  fc8e 2 646 649 fc8f 2 646 64a fc90 2 649 670 fc91 2 64a 631 fc92 2 64a 632 fc93 2 64a 645
  fc94 2 64a 646 fc95 2 64a 649 fc96 2 64a 64a fc97 2 626 62c fc98 2 626 62d fc99 2 626 62e
  fc9a 2 626 645 fc9b 2 626 647 fc9c 2 628 62c fc9d 2 628 62d fc9e 2 628 62e fc9f 2 628 645
  fca0 2 628 647 fca1 2 62a 62c fca2 2 62a 62d fca3 2 62a 62e fca4 2 62a 645 fca5 2 62a 647
  fca6 2 62b 645 fca7 2 62c 62d fca8 2 62c 645 fca9 2 62d 62c fcaa 2 62d 645 fcab 2 62e 62c
  fcac 2 62e 645 fcad 2 633 62c fcae 2 633 62d fcaf 2 633 62e fcb0 2 633 645 fcb1 2 635 62d
  fcb2 2 635 62e fcb3 2 635 645 fcb4 2 636 62c fcb5 2 636 62d fcb6 2 636 62e fcb7 2 636 645
  fcb8 2 637 62d fcb9 2 638 645 fcba 2 639 62c fcbb 2 639 645 fcbc 2 63a 62c fcbd 2 63a 645
  fcbe 2 641 62c fcbf 2 641 62d fcc0 2 641 62e fcc1 2 641 645 fcc2 2 642 62d fcc3 2 642 645
  fcc4 2 643 62c fcc5 2 643 62d fcc6 2 643 62e fcc7 2 643 644 fcc8 2 643 645 fcc9 2 644 62c
  fcca 2 644 62d fccb 2 644 62e fccc 2 644 645 fccd 2 644 647 fcce 2 645 62c fccf 2 645 62d
  fcd0 2 645 62e fcd1 2 645 645 fcd2 2 646 62c fcd3 2 646 62d fcd4 2 646 62e fcd5 2 646 645
  fcd6 2 646 647 fcd7 2 647 62c fcd8 2 647 645 fcd9 2 647 670 fcda 2 64a 62c fcdb 2 64a 62d
  fcdc 2 64a 62e fcdd 2 64a 645 fcde 2 64a 647 fcdf 2 626 645 fce0 2 626 647 fce1 2 628 645
  fce2 2 628 647 fce3 2 62a 645 fce4 2 62a 647 fce5 2 62b 645 fce6 2 62b 647 fce7 2 633 645
  fce8 2 633 647 fce9 2 634 645 fcea 2 634 647 fceb 2 643 644 fcec 2 643 645 fced 2 644 645
  fcee 2 646 645 fcef 2 646 647 fcf0 2 64a 645 fcf1 2 64a 647 fcf2 3 640 64e 651
  fcf3 3 640 64f 651 fcf4 3 640 650 651 fcf5 2 637 649 fcf6 2 637 64a fcf7 2 639 649
  fcf8 2 639 64a fcf9 2 63a 649 fcfa 2 63a 64a fcfb 2 633 649 fcfc 2 633 64a fcfd 2 634 649
  fcfe 2 634 64a fcff 2 62d 649 fd00 2 62d 64a fd01 2 62c 649 fd02 2 62c 64a fd03 2 62e 649
  fd04 2 62e 64a fd05 2 635 649 fd06 2 635 64a fd07 2 636 649 fd08 2 636 64a fd09 2 634 62c
  fd0a 2 634 62d fd0b 2 634 62e fd0c 2 634 645 fd0d 2 634 631 fd0e 2 633 631 fd0f 2 635 631
  fd10 2 636 631 fd11 2 637 649 fd12 2 637 64a fd13 2 639 649 fd14 2 639 64a fd15 2 63a 649
  fd16 2 63a 64a fd17 2 633 649 fd18 2 633 64a fd19 2 634 649 fd1a 2 634 64a fd1b 2 62d 649
  fd1c 2 62d 64a fd1d 2 62c 649 fd1e 2 62c 64a fd1f 2 62e 649 fd20 2 62e 64a fd21 2 635 649
  fd22 2 635 64a fd23 2 636 649 fd24 2 636 64a fd25 2 634 62c fd26 2 634 62d fd27 2 634 62e
  fd28 2 634 645 fd29 2 634 631 fd2a 2 633 631 fd2b 2 635 631 fd2c 2 636 631 fd2d 2 634 62c
  fd2e 2 634 62d fd2f 2 634 62e fd30 2 634 645 fd31 2 633 647 fd32 2 634 647 fd33 2 637 645
  fd34 2 633 62c fd35 2 633 62d fd36 2 633 62e fd37 2 634 62c fd38 2 634 62d fd39 2 634 62e
  fd3a 2 637 645 fd3b 2 638 645 fd3c 2 627 64b fd3d 2 627 64b fd50 3 62a 62c 645
  fd51 3 62a 62d 62c fd52 3 62a 62d 62c fd53 3 62a 62d 645 fd54 3 62a 62e 645 fd55 3 62a 645 62c
  fd56 3 62a 645 62d fd57 3 62a 645 62e fd58 3 62c 645 62d fd59 3 62c 645 62d fd5a 3 62d 645 64a
  fd5b 3 62d 645 649 fd5c 3 633 62d 62c fd5d 3 633 62c 62d fd5e 3 633 62c 649 fd5f 3 633 645 62d
  fd60 3 633 645 62d fd61 3 633 645 62c fd62 3 633 645 645 fd63 3 633 645 645 fd64 3 635 62d 62d
  fd65 3 635 62d 62d fd66 3 635 645 645 fd67 3 634 62d 645 fd68 3 634 62d 645 fd69 3 634 62c 64a
  fd6a 3 634 645 62e fd6b 3 634 645 62e fd6c 3 634 645 645 fd6d 3 634 645 645 fd6e 3 636 62d 649
  fd6f 3 636 62e 645 fd70 3 636 62e 645 fd71 3 637 645 62d fd72 3 637 645 62d fd73 3 637 645 645
  fd74 3 637 645 64a fd75 3 639 62c 645 fd76 3 639 645 645 fd77 3 639 645 645 fd78 3 639 645 649
  fd79 3 63a 645 645 fd7a 3 63a 645 64a fd7b 3 63a 645 649 fd7c 3 641 62e 645 fd7d 3 641 62e 645
  fd7e 3 642 645 62d fd7f 3 642 645 645 fd80 3 644 62d 645 fd81 3 644 62d 64a fd82 3 644 62d 649
  fd83 3 644 62c 62c fd84 3 644 62c 62c fd85 3 644 62e 645 fd86 3 644 62e 645 fd87 3 644 645 62d
  fd88 3 644 645 62d fd89 3 645 62d 62c fd8a 3 645 62d 645 fd8b 3 645 62d 64a fd8c 3 645 62c 62d
  fd8d 3 645 62c 645 fd8e 3 645 62e 62c fd8f 3 645 62e 645 fd92 3 645 62c 62e fd93 3 647 645 62c
  fd94 3 647 645 645 fd95 3 646 62d 645 fd96 3 646 62d 649 fd97 3 646 62c 645 fd98 3 646 62c 645
  fd99 3 646 62c 649 fd9a 3 646 645 64a fd9b 3 646 645 649 fd9c 3 64a 645 645 fd9d 3 64a 645 645
  fd9e 3 628 62e 64a fd9f 3 62a 62c 64a fda0 3 62a 62c 649 fda1 3 62a 62e 64a fda2 3 62a 62e 649
  fda3 3 62a 645 64a fda4 3 62a 645 649 fda5 3 62c 645 64a fda6 3 62c 62d 649 fda7 3 62c 645 649
  fda8 3 633 62e 649 fda9 3 635 62d 64a fdaa 3 634 62d 64a fdab 3 636 62d 64a fdac 3 644 62c 64a
  fdad 3 644 645 64a fdae 3 64a 62d 64a fdaf 3 64a 62c 64a fdb0 3 64a 645 64a fdb1 3 645 645 64a
  fdb2 3 642 645 64a fdb3 3 646 62d 64a fdb4 3 642 645 62d fdb5 3 644 62d 645 fdb6 3 639 645 64a
  fdb7 3 643 645 64a fdb8 3 646 62c 62d fdb9 3 645 62e 64a fdba 3 644 62c 645 fdbb 3 643 645 645
  fdbc 3 644 62c 645 fdbd 3 646 62c 62d fdbe 3 62c 62d 64a fdbf 3 62d 62c 64a fdc0 3 645 62c 64a
  fdc1 3 641 645 64a fdc2 3 628 62d 64a fdc3 3 643 645 645 fdc4 3 639 62c 645 fdc5 3 635 645 645
  fdc6 3 633 62e 64a fdc7 3 646 62c 64a fdf0 3 635 644 6d2 fdf1 3 642 644 6d2
  fdf2 4 627 644 644 647 fdf3 4 627 643 628 631 fdf4 4 645 62d 645 62f fdf5 4 635 644 639 645
  fdf6 4 631 633 648 644 fdf7 4 639 644 64a 647 fdf8 4 648 633 644 645 fdf9 3 635 644 649
  fdfa 12 635 644 649 20 627 644 644 647 20 639 644 64a 647 20 648 633 644 645
  fdfb 8 62c 644 20 62c 644 627 644 647 fdfc 4 631 6cc 627 644 fe49 2 20 305 fe4a 2 20 305
  fe4b 2 20 305 fe4c 2 20 305 fe70 2 20 64b fe71 2 640 64b fe72 2 20 64c fe74 2 20 64d
  fe76 2 20 64e fe77 2 640 64e fe78 2 20 64f fe79 2 640 64f fe7a 2 20 650 fe7b 2 640 650
  fe7c 2 20 651 fe7d 2 640 651 fe7e 2 20 652 fe7f 2 640 652 fef5 2 644 622 fef6 2 644 622
  fef7 2 644 623 fef8 2 644 623 fef9 2 644 625 fefa 2 644 625 fefb 2 644 627 fefc 2 644 627
  ffe3 2 20 304 1d15e 2 1d157 1d165 1d15f 2 1d158 1d165 1d160 3 1d158 1d165 1d16e
  1d161 3 1d158 1d165 1d16f 1d162 3 1d158 1d165 1d170 1d163 3 1d158 1d165 1d171
  1d164 3 1d158 1d165 1d172 1d1bb 2 1d1b9 1d165 1d1bc 2 1d1ba 1d165 1d1bd 3 1d1b9 1d165 1d16e
  1d1be 3 1d1ba 1d165 1d16e 1d1bf 3 1d1b9 1d165 1d16f 1d1c0 3 1d1ba 1d165 1d16f 1f101 2 30 2c
  1f102 2 31 2c 1f103 2 32 2c 1f104 2 33 2c 1f105 2 34 2c 1f106 2 35 2c 1f107 2 36 2c
  1f108 2 37 2c 1f109 2 38 2c 1f10a 2 39 2c 1f110 3 28 61 29 1f111 3 28 62 29 1f112 3 28 63 29
  1f113 3 28 64 29 1f114 3 28 65 29 1f115 3 28 66 29 1f116 3 28 67 29 1f117 3 28 68 29
  1f118 3 28 69 29 1f119 3 28 6a 29 1f11a 3 28 6b 29 1f11b 3 28 6c 29 1f11c 3 28 6d 29
  1f11d 3 28 6e 29 1f11e 3 28 6f 29 1f11f 3 28 70 29 1f120 3 28 71 29 1f121 3 28 72 29
  1f122 3 28 73 29 1f123 3 28 74 29 1f124 3 28 75 29 1f125 3 28 76 29 1f126 3 28 77 29
  1f127 3 28 78 29 1f128 3 28 79 29 1f129 3 28 7a 29 1f12a 3 3014 73 3015 1f12d 2 63 64
  1f12e 2 77 7a 1f14a 2 68 76 1f14b 2 6d 76 1f14c 2 73 64 1f14d 2 73 73 1f14e 3 70 70 76
  1f14f 2 77 63 1f16a 2 6d 63 1f16b 2 6d 64 1f16c 2 6d 72 1f190 2 64 6a 1f200 2 307b 304b
  1f201 2 30b3 30b3 1f240 3 3014 672c 3015 1f241 3 3014 4e09 3015 1f242 3 3014 4e8c 3015
  1f243 3 3014 5b89 3015 1f244 3 3014 70b9 3015 1f245 3 3014 6253 3015 1f246 3 3014 76d7 3015
  1f247 3 3014 52dd 3015 1f248 3 3014 6557 3015"

/-- Characters that stand for nothing. -/
def domainIgnored : Ranges := .ofText "
  ad ad 34f 34f 115f 1160 17b4 17b5 180b 180f 200b 200b 2060 2064 206a 206f 3164 3164 fe00 fe0f
  feff feff ffa0 ffa0 1bca0 1bca3 1d173 1d17a e0100 e01ef"

/-- Characters that no domain name holds. -/
def domainRefused : Ranges := .ofText "
  80 80 81 81 82 82 83 83 84 84 85 85 86 86 87 87 88 88 89 89 8a 8a 8b 8b 8c 8c 8d 8d 8e 8e 8f 8f
  90 90 91 91 92 92 93 93 94 94 95 95 96 96 97 97 98 98 99 99 9a 9a 9b 9b 9c 9c 9d 9d 9e 9e 9f 9f
  378 379 380 383 38b 38b 38d 38d 3a2 3a2 530 530 557 558 58b 58c 590 590 5c8 5cf 5eb 5ee 5f5 605
  61c 61c 6dd 6dd 70e 70f 74b 74c 7b2 7bf 7fb 7fc 82e 82f 83f 83f 85c 85d 85f 85f 86b 86f 890 896
  8e2 8e2 984 984 98d 98e 991 992 9a9 9a9 9b1 9b1 9b3 9b5 9ba 9bb 9c5 9c6 9c9 9ca 9cf 9d6 9d8 9db
  9de 9de 9e4 9e5 9ff a00 a04 a04 a0b a0e a11 a12 a29 a29 a31 a31 a34 a34 a37 a37 a3a a3b a3d a3d
  a43 a46 a49 a4a a4e a50 a52 a58 a5d a5d a5f a65 a77 a80 a84 a84 a8e a8e a92 a92 aa9 aa9 ab1 ab1
  ab4 ab4 aba abb ac6 ac6 aca aca ace acf ad1 adf ae4 ae5 af2 af8 b00 b00 b04 b04 b0d b0e b11 b12
  b29 b29 b31 b31 b34 b34 b3a b3b b45 b46 b49 b4a b4e b54 b58 b5b b5e b5e b64 b65 b78 b81 b84 b84
  b8b b8d b91 b91 b96 b98 b9b b9b b9d b9d ba0 ba2 ba5 ba7 bab bad bba bbd bc3 bc5 bc9 bc9 bce bcf
  bd1 bd6 bd8 be5 bfb bff c0d c0d c11 c11 c29 c29 c3a c3b c45 c45 c49 c49 c4e c54 c57 c57 c5b c5b
  c5e c5f c64 c65 c70 c76 c8d c8d c91 c91 ca9 ca9 cb4 cb4 cba cbb cc5 cc5 cc9 cc9 cce cd4 cd7 cdb
  cdf cdf ce4 ce5 cf0 cf0 cf4 cff d0d d0d d11 d11 d45 d45 d49 d49 d50 d53 d64 d65 d80 d80 d84 d84
  d97 d99 db2 db2 dbc dbc dbe dbf dc7 dc9 dcb dce dd5 dd5 dd7 dd7 de0 de5 df0 df1 df5 e00 e3b e3e
  e5c e80 e83 e83 e85 e85 e8b e8b ea4 ea4 ea6 ea6 ebe ebf ec5 ec5 ec7 ec7 ecf ecf eda edb ee0 eff
  f48 f48 f6d f70 f98 f98 fbd fbd fcd fcd fdb fff 10c6 10c6 10c8 10cc 10ce 10cf 1249 1249
  124e 124f 1257 1257 1259 1259 125e 125f 1289 1289 128e 128f 12b1 12b1 12b6 12b7 12bf 12bf
  12c1 12c1 12c6 12c7 12d7 12d7 1311 1311 1316 1317 135b 135c 137d 137f 139a 139f 13f6 13f7
  13fe 13ff 1680 1680 169d 169f 16f9 16ff 1716 171e 1737 173f 1754 175f 176d 176d 1771 1771
  1774 177f 17de 17df 17ea 17ef 17fa 17ff 181a 181f 1879 187f 18ab 18af 18f6 18ff 191f 191f
  192c 192f 193c 193f 1941 1943 196e 196f 1975 197f 19ac 19af 19ca 19cf 19db 19dd 1a1c 1a1d
  1a5f 1a5f 1a7d 1a7e 1a8a 1a8f 1a9a 1a9f 1aae 1aaf 1ade 1adf 1aec 1aff 1b4d 1b4d 1bf4 1bfb
  1c38 1c3a 1c4a 1c4c 1c8b 1c8f 1cbb 1cbc 1cc8 1ccf 1cfb 1cff 1f16 1f17 1f1e 1f1f 1f46 1f47
  1f4e 1f4f 1f58 1f58 1f5a 1f5a 1f5c 1f5c 1f5e 1f5e 1f7e 1f7f 1fb5 1fb5 1fc5 1fc5 1fd4 1fd5
  1fdc 1fdc 1ff0 1ff1 1ff5 1ff5 1fff 1fff 200e 200f 2024 2026 2028 202e 2065 2069 2072 2073
  208f 208f 209d 209f 20c2 20cf 20f1 20ff 218c 218f 242a 243f 244b 245f 2488 249b 2b74 2b75
  2cf4 2cf8 2d26 2d26 2d28 2d2c 2d2e 2d2f 2d68 2d6e 2d71 2d7e 2d97 2d9f 2da7 2da7 2daf 2daf
  2db7 2db7 2dbf 2dbf 2dc7 2dc7 2dcf 2dcf 2dd7 2dd7 2ddf 2ddf 2e5e 2e7f 2e9a 2e9a 2ef4 2eff
  2fd6 2fff 3040 3040 3097 3098 3100 3104 3130 3130 318f 318f 31e6 31ef 321f 321f 33c2 33c2
  33c7 33c7 33d8 33d8 a48d a48f a4c7 a4cf a62c a63f a6f8 a6ff a7dd a7f0 a82d a82f a83a a83f
  a878 a87f a8c6 a8cd a8da a8df a954 a95e a97d a97f a9ce a9ce a9da a9dd a9ff a9ff aa37 aa3f
  aa4e aa4f aa5a aa5b aac3 aada aaf7 ab00 ab07 ab08 ab0f ab10 ab17 ab1f ab27 ab27 ab2f ab2f
  ab6c ab6f abee abef abfa abff d7a4 d7af d7c7 d7ca d7fc f8ff fa6e fa6f fada faff fb07 fb12
  fb18 fb1c fb37 fb37 fb3d fb3d fb3f fb3f fb42 fb42 fb45 fb45 fdd0 fdef fe12 fe12 fe19 fe1f
  fe30 fe30 fe52 fe53 fe67 fe67 fe6c fe6f fe75 fe75 fefd fefe ff00 ff00 ffbf ffc1 ffc8 ffc9
  ffd0 ffd1 ffd8 ffd9 ffdd ffdf ffe7 ffe7 ffef ffff 1000c 1000c 10027 10027 1003b 1003b
  1003e 1003e 1004e 1004f 1005e 1007f 100fb 100ff 10103 10106 10134 10136 1018f 1018f 1019d 1019f
  101a1 101cf 101fe 1027f 1029d 1029f 102d1 102df 102fc 102ff 10324 1032c 1034b 1034f 1037b 1037f
  1039e 1039e 103c4 103c7 103d6 103ff 1049e 1049f 104aa 104af 104d4 104d7 104fc 104ff 10528 1052f
  10564 1056e 1057b 1057b 1058b 1058b 10593 10593 10596 10596 105a2 105a2 105b2 105b2 105ba 105ba
  105bd 105bf 105f4 105ff 10737 1073f 10756 1075f 10768 1077f 10786 10786 107b1 107b1 107bb 107ff
  10806 10807 10809 10809 10836 10836 10839 1083b 1083d 1083e 10856 10856 1089f 108a6 108b0 108df
  108f3 108f3 108f6 108fa 1091c 1091e 1093a 1093e 1095a 1097f 109b8 109bb 109d0 109d1 10a04 10a04
  10a07 10a0b 10a14 10a14 10a18 10a18 10a36 10a37 10a3b 10a3e 10a49 10a4f 10a59 10a5f 10aa0 10abf
  10ae7 10aea 10af7 10aff 10b36 10b38 10b56 10b57 10b73 10b77 10b92 10b98 10b9d 10ba8 10bb0 10bff
  10c49 10c7f 10cb3 10cbf 10cf3 10cf9 10d28 10d2f 10d3a 10d3f 10d66 10d68 10d86 10d8d 10d90 10e5f
  10e7f 10e7f 10eaa 10eaa 10eae 10eaf 10eb2 10ec1 10ec8 10ecf 10ed9 10ef9 10f28 10f2f 10f5a 10f6f
  10f8a 10faf 10fcc 10fdf 10ff7 10fff 1104e 11051 11076 1107e 110bd 110bd 110c3 110cf 110e9 110ef
  110fa 110ff 11135 11135 11148 1114f 11177 1117f 111e0 111e0 111f5 111ff 11212 11212 11242 1127f
  11287 11287 11289 11289 1128e 1128e 1129e 1129e 112aa 112af 112eb 112ef 112fa 112ff 11304 11304
  1130d 1130e 11311 11312 11329 11329 11331 11331 11334 11334 1133a 1133a 11345 11346 11349 1134a
  1134e 1134f 11351 11356 11358 1135c 11364 11365 1136d 1136f 11375 1137f 1138a 1138a 1138c 1138d
  1138f 1138f 113b6 113b6 113c1 113c1 113c3 113c4 113c6 113c6 113cb 113cb 113d6 113d6 113d9 113e0
  113e3 113ff 1145c 1145c 11462 1147f 114c8 114cf 114da 1157f 115b6 115b7 115de 115ff 11645 1164f
  1165a 1165f 1166d 1167f 116ba 116bf 116ca 116cf 116e4 116ff 1171b 1171c 1172c 1172f 11747 117ff
  1183c 1189f 118f3 118fe 11907 11908 1190a 1190b 11914 11914 11917 11917 11936 11936 11939 1193a
  11947 1194f 1195a 1199f 119a8 119a9 119d8 119d9 119e5 119ff 11a48 11a4f 11aa3 11aaf 11af9 11aff
  11b0a 11b5f 11b68 11bbf 11be2 11bef 11bfa 11bff 11c09 11c09 11c37 11c37 11c46 11c4f 11c6d 11c6f
  11c90 11c91 11ca8 11ca8 11cb7 11cff 11d07 11d07 11d0a 11d0a 11d37 11d39 11d3b 11d3b 11d3e 11d3e
  11d48 11d4f 11d5a 11d5f 11d66 11d66 11d69 11d69 11d8f 11d8f 11d92 11d92 11d99 11d9f 11daa 11daf
  11ddc 11ddf 11dea 11edf 11ef9 11eff 11f11 11f11 11f3b 11f3d 11f5b 11faf 11fb1 11fbf 11ff2 11ffe
  1239a 123ff 1246f 1246f 12475 1247f 12544 12f8f 12ff3 12fff 13430 1343f 13456 1345f 143fb 143ff
  14647 160ff 1613a 167ff 16a39 16a3f 16a5f 16a5f 16a6a 16a6d 16abf 16abf 16aca 16acf 16aee 16aef
  16af6 16aff 16b46 16b4f 16b5a 16b5a 16b62 16b62 16b78 16b7c 16b90 16d3f 16d7a 16e3f 16e9b 16e9f
  16eb9 16eba 16ed4 16eff 16f4b 16f4e 16f88 16f8e 16fa0 16fdf 16fe5 16fef 16ff7 16fff 18cd6 18cfe
  18d1f 18d7f 18df3 1afef 1aff4 1aff4 1affc 1affc 1afff 1afff 1b123 1b131 1b133 1b14f 1b153 1b154
  1b156 1b163 1b168 1b16f 1b2fc 1bbff 1bc6b 1bc6f 1bc7d 1bc7f 1bc89 1bc8f 1bc9a 1bc9b 1bca4 1cbff
  1ccfd 1ccff 1ceb4 1ceb9 1ced1 1cedf 1cef1 1ceff 1cf2e 1cf2f 1cf47 1cf4f 1cfc4 1cfff 1d0f6 1d0ff
  1d127 1d128 1d1eb 1d1ff 1d246 1d2bf 1d2d4 1d2df 1d2f4 1d2ff 1d357 1d35f 1d379 1d3ff 1d455 1d455
  1d49d 1d49d 1d4a0 1d4a1 1d4a3 1d4a4 1d4a7 1d4a8 1d4ad 1d4ad 1d4ba 1d4ba 1d4bc 1d4bc 1d4c4 1d4c4
  1d506 1d506 1d50b 1d50c 1d515 1d515 1d51d 1d51d 1d53a 1d53a 1d53f 1d53f 1d545 1d545 1d547 1d549
  1d551 1d551 1d6a6 1d6a7 1d7cc 1d7cd 1da8c 1da9a 1daa0 1daa0 1dab0 1deff 1df1f 1df24 1df2b 1dfff
  1e007 1e007 1e019 1e01a 1e022 1e022 1e025 1e025 1e02b 1e02f 1e06e 1e08e 1e090 1e0ff 1e12d 1e12f
  1e13e 1e13f 1e14a 1e14d 1e150 1e28f 1e2af 1e2bf 1e2fa 1e2fe 1e300 1e4cf 1e4fa 1e5cf 1e5fb 1e5fe
  1e600 1e6bf 1e6df 1e6df 1e6f6 1e6fd 1e700 1e7df 1e7e7 1e7e7 1e7ec 1e7ec 1e7ef 1e7ef 1e7ff 1e7ff
  1e8c5 1e8c6 1e8d7 1e8ff 1e94c 1e94f 1e95a 1e95d 1e960 1ec70 1ecb5 1ed00 1ed3e 1edff 1ee04 1ee04
  1ee20 1ee20 1ee23 1ee23 1ee25 1ee26 1ee28 1ee28 1ee33 1ee33 1ee38 1ee38 1ee3a 1ee3a 1ee3c 1ee41
  1ee43 1ee46 1ee48 1ee48 1ee4a 1ee4a 1ee4c 1ee4c 1ee50 1ee50 1ee53 1ee53 1ee55 1ee56 1ee58 1ee58
  1ee5a 1ee5a 1ee5c 1ee5c 1ee5e 1ee5e 1ee60 1ee60 1ee63 1ee63 1ee65 1ee66 1ee6b 1ee6b 1ee73 1ee73
  1ee78 1ee78 1ee7d 1ee7d 1ee7f 1ee7f 1ee8a 1ee8a 1ee9c 1eea0 1eea4 1eea4 1eeaa 1eeaa 1eebc 1eeef
  1eef2 1efff 1f02c 1f02f 1f094 1f09f 1f0af 1f0b0 1f0c0 1f0c0 1f0d0 1f0d0 1f0f6 1f100 1f1ae 1f1e5
  1f203 1f20f 1f23c 1f23f 1f249 1f24f 1f252 1f25f 1f266 1f2ff 1f6d9 1f6db 1f6ed 1f6ef 1f6fd 1f6ff
  1f7da 1f7df 1f7ec 1f7ef 1f7f1 1f7ff 1f80c 1f80f 1f848 1f84f 1f85a 1f85f 1f888 1f88f 1f8ae 1f8af
  1f8bc 1f8bf 1f8c2 1f8cf 1f8d9 1f8ff 1fa58 1fa5f 1fa6e 1fa6f 1fa7d 1fa7f 1fa8b 1fa8d 1fac7 1fac7
  1fac9 1facc 1fadd 1fade 1faeb 1faee 1faf9 1faff 1fb93 1fb93 1fbfb 1ffff 2a6e0 2a6ff 2b81e 2b81f
  2ceae 2ceaf 2ebe1 2ebef 2ee5e 2f7ff 2fa1e 2ffff 3134b 3134f 3347a e00ff e01f0 10ffff"

end PackageFinder.Unicode
