import AssetSeed.HostName.Letters

/-!
# Characters that stand for others

Host names are written in small letters, and many characters stand for letters, digits and points
of ASCII or for several of them.

## Main definitions

* `spelled?` — what a character of a host name stands for.
* `isSettled` — whether a character stands for itself.
-/

namespace AssetSeed.HostName

/-- Characters `first` to `last`, which stand for the characters from `image` on. -/
structure Stretch where
  first : Nat
  last : Nat
  image : Nat
deriving Repr, DecidableEq

def Stretch.contains (s : Stretch) (n : Nat) : Bool :=
  s.first ≤ n && n ≤ s.last

def stretches : List Stretch := [
  ⟨0x41, 0x5a, 0x61⟩, ⟨0xa0, 0xa0, 0x20⟩, ⟨0xaa, 0xaa, 0x61⟩, ⟨0xb2, 0xb3, 0x32⟩,
  ⟨0xb9, 0xb9, 0x31⟩, ⟨0xba, 0xba, 0x6f⟩, ⟨0x17f, 0x17f, 0x73⟩, ⟨0x2b0, 0x2b0, 0x68⟩,
  ⟨0x2b2, 0x2b2, 0x6a⟩, ⟨0x2b3, 0x2b3, 0x72⟩, ⟨0x2b7, 0x2b7, 0x77⟩, ⟨0x2b8, 0x2b8, 0x79⟩,
  ⟨0x2e1, 0x2e1, 0x6c⟩, ⟨0x2e2, 0x2e2, 0x73⟩, ⟨0x2e3, 0x2e3, 0x78⟩, ⟨0x37e, 0x37e, 0x3b⟩,
  ⟨0x1d2c, 0x1d2c, 0x61⟩, ⟨0x1d2e, 0x1d2e, 0x62⟩, ⟨0x1d30, 0x1d31, 0x64⟩, ⟨0x1d33, 0x1d3a, 0x67⟩,
  ⟨0x1d3c, 0x1d3c, 0x6f⟩, ⟨0x1d3e, 0x1d3e, 0x70⟩, ⟨0x1d3f, 0x1d3f, 0x72⟩, ⟨0x1d40, 0x1d41, 0x74⟩,
  ⟨0x1d42, 0x1d42, 0x77⟩, ⟨0x1d43, 0x1d43, 0x61⟩, ⟨0x1d47, 0x1d47, 0x62⟩, ⟨0x1d48, 0x1d49, 0x64⟩,
  ⟨0x1d4d, 0x1d4d, 0x67⟩, ⟨0x1d4f, 0x1d4f, 0x6b⟩, ⟨0x1d50, 0x1d50, 0x6d⟩, ⟨0x1d52, 0x1d52, 0x6f⟩,
  ⟨0x1d56, 0x1d56, 0x70⟩, ⟨0x1d57, 0x1d58, 0x74⟩, ⟨0x1d5b, 0x1d5b, 0x76⟩, ⟨0x1d62, 0x1d62, 0x69⟩,
  ⟨0x1d63, 0x1d63, 0x72⟩, ⟨0x1d64, 0x1d65, 0x75⟩, ⟨0x1d9c, 0x1d9c, 0x63⟩, ⟨0x1da0, 0x1da0, 0x66⟩,
  ⟨0x1dbb, 0x1dbb, 0x7a⟩, ⟨0x1fef, 0x1fef, 0x60⟩, ⟨0x2000, 0x2000, 0x20⟩, ⟨0x2001, 0x2001, 0x20⟩,
  ⟨0x2002, 0x2002, 0x20⟩, ⟨0x2003, 0x2003, 0x20⟩, ⟨0x2004, 0x2004, 0x20⟩, ⟨0x2005, 0x2005, 0x20⟩,
  ⟨0x2006, 0x2006, 0x20⟩, ⟨0x2007, 0x2007, 0x20⟩, ⟨0x2008, 0x2008, 0x20⟩, ⟨0x2009, 0x2009, 0x20⟩,
  ⟨0x200a, 0x200a, 0x20⟩, ⟨0x202f, 0x202f, 0x20⟩, ⟨0x205f, 0x205f, 0x20⟩, ⟨0x2070, 0x2070, 0x30⟩,
  ⟨0x2071, 0x2071, 0x69⟩, ⟨0x2074, 0x2079, 0x34⟩, ⟨0x207a, 0x207a, 0x2b⟩, ⟨0x207c, 0x207c, 0x3d⟩,
  ⟨0x207d, 0x207e, 0x28⟩, ⟨0x207f, 0x207f, 0x6e⟩, ⟨0x2080, 0x2089, 0x30⟩, ⟨0x208a, 0x208a, 0x2b⟩,
  ⟨0x208c, 0x208c, 0x3d⟩, ⟨0x208d, 0x208e, 0x28⟩, ⟨0x2090, 0x2090, 0x61⟩, ⟨0x2091, 0x2091, 0x65⟩,
  ⟨0x2092, 0x2092, 0x6f⟩, ⟨0x2093, 0x2093, 0x78⟩, ⟨0x2095, 0x2095, 0x68⟩, ⟨0x2096, 0x2099, 0x6b⟩,
  ⟨0x209a, 0x209a, 0x70⟩, ⟨0x209b, 0x209c, 0x73⟩, ⟨0x2102, 0x2102, 0x63⟩, ⟨0x210a, 0x210b, 0x67⟩,
  ⟨0x210c, 0x210c, 0x68⟩, ⟨0x210d, 0x210d, 0x68⟩, ⟨0x210e, 0x210e, 0x68⟩, ⟨0x2110, 0x2110, 0x69⟩,
  ⟨0x2111, 0x2111, 0x69⟩, ⟨0x2112, 0x2112, 0x6c⟩, ⟨0x2113, 0x2113, 0x6c⟩, ⟨0x2115, 0x2115, 0x6e⟩,
  ⟨0x2119, 0x211b, 0x70⟩, ⟨0x211c, 0x211c, 0x72⟩, ⟨0x211d, 0x211d, 0x72⟩, ⟨0x2124, 0x2124, 0x7a⟩,
  ⟨0x2128, 0x2128, 0x7a⟩, ⟨0x212a, 0x212a, 0x6b⟩, ⟨0x212c, 0x212d, 0x62⟩, ⟨0x212f, 0x212f, 0x65⟩,
  ⟨0x2130, 0x2131, 0x65⟩, ⟨0x2133, 0x2133, 0x6d⟩, ⟨0x2134, 0x2134, 0x6f⟩, ⟨0x2139, 0x2139, 0x69⟩,
  ⟨0x2145, 0x2145, 0x64⟩, ⟨0x2146, 0x2147, 0x64⟩, ⟨0x2148, 0x2149, 0x69⟩, ⟨0x2160, 0x2160, 0x69⟩,
  ⟨0x2164, 0x2164, 0x76⟩, ⟨0x2169, 0x2169, 0x78⟩, ⟨0x216c, 0x216c, 0x6c⟩, ⟨0x216d, 0x216e, 0x63⟩,
  ⟨0x216f, 0x216f, 0x6d⟩, ⟨0x2170, 0x2170, 0x69⟩, ⟨0x2174, 0x2174, 0x76⟩, ⟨0x2179, 0x2179, 0x78⟩,
  ⟨0x217c, 0x217c, 0x6c⟩, ⟨0x217d, 0x217e, 0x63⟩, ⟨0x217f, 0x217f, 0x6d⟩, ⟨0x2460, 0x2468, 0x31⟩,
  ⟨0x24b6, 0x24cf, 0x61⟩, ⟨0x24d0, 0x24e9, 0x61⟩, ⟨0x24ea, 0x24ea, 0x30⟩, ⟨0x2c7c, 0x2c7c, 0x6a⟩,
  ⟨0x2c7d, 0x2c7d, 0x76⟩, ⟨0x3000, 0x3000, 0x20⟩, ⟨0x3002, 0x3002, 0x2e⟩, ⟨0xa7f1, 0xa7f1, 0x73⟩,
  ⟨0xa7f2, 0xa7f2, 0x63⟩, ⟨0xa7f3, 0xa7f3, 0x66⟩, ⟨0xa7f4, 0xa7f4, 0x71⟩, ⟨0xfb29, 0xfb29, 0x2b⟩,
  ⟨0xfe10, 0xfe10, 0x2c⟩, ⟨0xfe13, 0xfe14, 0x3a⟩, ⟨0xfe15, 0xfe15, 0x21⟩, ⟨0xfe16, 0xfe16, 0x3f⟩,
  ⟨0xfe33, 0xfe33, 0x5f⟩, ⟨0xfe34, 0xfe34, 0x5f⟩, ⟨0xfe35, 0xfe36, 0x28⟩, ⟨0xfe37, 0xfe37, 0x7b⟩,
  ⟨0xfe38, 0xfe38, 0x7d⟩, ⟨0xfe47, 0xfe47, 0x5b⟩, ⟨0xfe48, 0xfe48, 0x5d⟩, ⟨0xfe4d, 0xfe4d, 0x5f⟩,
  ⟨0xfe4e, 0xfe4e, 0x5f⟩, ⟨0xfe4f, 0xfe4f, 0x5f⟩, ⟨0xfe50, 0xfe50, 0x2c⟩, ⟨0xfe54, 0xfe54, 0x3b⟩,
  ⟨0xfe55, 0xfe55, 0x3a⟩, ⟨0xfe56, 0xfe56, 0x3f⟩, ⟨0xfe57, 0xfe57, 0x21⟩, ⟨0xfe59, 0xfe5a, 0x28⟩,
  ⟨0xfe5b, 0xfe5b, 0x7b⟩, ⟨0xfe5c, 0xfe5c, 0x7d⟩, ⟨0xfe5f, 0xfe5f, 0x23⟩, ⟨0xfe60, 0xfe60, 0x26⟩,
  ⟨0xfe61, 0xfe62, 0x2a⟩, ⟨0xfe63, 0xfe63, 0x2d⟩, ⟨0xfe64, 0xfe64, 0x3c⟩, ⟨0xfe65, 0xfe65, 0x3e⟩,
  ⟨0xfe66, 0xfe66, 0x3d⟩, ⟨0xfe68, 0xfe68, 0x5c⟩, ⟨0xfe69, 0xfe6a, 0x24⟩, ⟨0xfe6b, 0xfe6b, 0x40⟩,
  ⟨0xff01, 0xff20, 0x21⟩, ⟨0xff21, 0xff3a, 0x61⟩, ⟨0xff3b, 0xff5e, 0x5b⟩, ⟨0xff61, 0xff61, 0x2e⟩,
  ⟨0x107a5, 0x107a5, 0x71⟩, ⟨0x1ccd6, 0x1ccef, 0x61⟩, ⟨0x1ccf0, 0x1ccf9, 0x30⟩,
  ⟨0x1d400, 0x1d419, 0x61⟩, ⟨0x1d41a, 0x1d433, 0x61⟩, ⟨0x1d434, 0x1d44d, 0x61⟩,
  ⟨0x1d44e, 0x1d454, 0x61⟩, ⟨0x1d456, 0x1d467, 0x69⟩, ⟨0x1d468, 0x1d481, 0x61⟩,
  ⟨0x1d482, 0x1d49b, 0x61⟩, ⟨0x1d49c, 0x1d49c, 0x61⟩, ⟨0x1d49e, 0x1d49f, 0x63⟩,
  ⟨0x1d4a2, 0x1d4a2, 0x67⟩, ⟨0x1d4a5, 0x1d4a6, 0x6a⟩, ⟨0x1d4a9, 0x1d4ac, 0x6e⟩,
  ⟨0x1d4ae, 0x1d4b5, 0x73⟩, ⟨0x1d4b6, 0x1d4b9, 0x61⟩, ⟨0x1d4bb, 0x1d4bb, 0x66⟩,
  ⟨0x1d4bd, 0x1d4c3, 0x68⟩, ⟨0x1d4c5, 0x1d4cf, 0x70⟩, ⟨0x1d4d0, 0x1d4e9, 0x61⟩,
  ⟨0x1d4ea, 0x1d503, 0x61⟩, ⟨0x1d504, 0x1d505, 0x61⟩, ⟨0x1d507, 0x1d50a, 0x64⟩,
  ⟨0x1d50d, 0x1d514, 0x6a⟩, ⟨0x1d516, 0x1d51c, 0x73⟩, ⟨0x1d51e, 0x1d537, 0x61⟩,
  ⟨0x1d538, 0x1d539, 0x61⟩, ⟨0x1d53b, 0x1d53e, 0x64⟩, ⟨0x1d540, 0x1d544, 0x69⟩,
  ⟨0x1d546, 0x1d546, 0x6f⟩, ⟨0x1d54a, 0x1d550, 0x73⟩, ⟨0x1d552, 0x1d56b, 0x61⟩,
  ⟨0x1d56c, 0x1d585, 0x61⟩, ⟨0x1d586, 0x1d59f, 0x61⟩, ⟨0x1d5a0, 0x1d5b9, 0x61⟩,
  ⟨0x1d5ba, 0x1d5d3, 0x61⟩, ⟨0x1d5d4, 0x1d5ed, 0x61⟩, ⟨0x1d5ee, 0x1d607, 0x61⟩,
  ⟨0x1d608, 0x1d621, 0x61⟩, ⟨0x1d622, 0x1d63b, 0x61⟩, ⟨0x1d63c, 0x1d655, 0x61⟩,
  ⟨0x1d656, 0x1d66f, 0x61⟩, ⟨0x1d670, 0x1d689, 0x61⟩, ⟨0x1d68a, 0x1d6a3, 0x61⟩,
  ⟨0x1d7ce, 0x1d7d7, 0x30⟩, ⟨0x1d7d8, 0x1d7e1, 0x30⟩, ⟨0x1d7e2, 0x1d7eb, 0x30⟩,
  ⟨0x1d7ec, 0x1d7f5, 0x30⟩, ⟨0x1d7f6, 0x1d7ff, 0x30⟩, ⟨0x1f12b, 0x1f12b, 0x63⟩,
  ⟨0x1f12c, 0x1f12c, 0x72⟩, ⟨0x1f130, 0x1f149, 0x61⟩, ⟨0x1fbf0, 0x1fbf9, 0x30⟩]

/-- Characters that stand for several others. -/
def spellings : List (Nat × String) := [
  (0xa8, " \u0308"), (0xaf, " \u0304"), (0xb4, " \u0301"), (0xb8, " \u0327"), (0xbc, "1⁄4"),
  (0xbd, "1⁄2"), (0xbe, "3⁄4"), (0x130, "i\u0307"), (0x132, "ij"), (0x133, "ij"), (0x13f, "l·"),
  (0x140, "l·"), (0x149, "ʼn"), (0x1c4, "dž"), (0x1c5, "dž"), (0x1c6, "dž"), (0x1c7, "lj"),
  (0x1c8, "lj"), (0x1c9, "lj"), (0x1ca, "nj"), (0x1cb, "nj"), (0x1cc, "nj"), (0x1f1, "dz"),
  (0x1f2, "dz"), (0x1f3, "dz"), (0x2d8, " \u0306"), (0x2d9, " \u0307"), (0x2da, " \u030a"),
  (0x2db, " \u0328"), (0x2dc, " \u0303"), (0x2dd, " \u030b"), (0x345, "ι"), (0x37a, " ι"),
  (0x384, " \u0301"), (0x385, " \u0308\u0301"), (0xe33, "\u0e4dา"), (0xeb3, "\u0ecdາ"),
  (0x1e9a, "aʾ"), (0x1fbd, " \u0313"), (0x1fbf, " \u0313"), (0x1fc0, " \u0342"),
  (0x1fc1, " \u0308\u0342"), (0x1fcd, " \u0313\u0300"), (0x1fce, " \u0313\u0301"),
  (0x1fcf, " \u0313\u0342"), (0x1fdd, " \u0314\u0300"), (0x1fde, " \u0314\u0301"),
  (0x1fdf, " \u0314\u0342"), (0x1fed, " \u0308\u0300"), (0x1fee, " \u0308\u0301"),
  (0x1ffd, " \u0301"), (0x1ffe, " \u0314"), (0x2017, " \u0333"), (0x203c, "!!"),
  (0x203e, " \u0305"), (0x2047, "??"), (0x2048, "?!"), (0x2049, "!?"), (0x20a8, "rs"),
  (0x2100, "a/c"), (0x2101, "a/s"), (0x2103, "°c"), (0x2105, "c/o"), (0x2106, "c/u"),
  (0x2109, "°f"), (0x2116, "no"), (0x2120, "sm"), (0x2121, "tel"), (0x2122, "tm"), (0x213b, "fax"),
  (0x2150, "1⁄7"), (0x2151, "1⁄9"), (0x2152, "1⁄10"), (0x2153, "1⁄3"), (0x2154, "2⁄3"),
  (0x2155, "1⁄5"), (0x2156, "2⁄5"), (0x2157, "3⁄5"), (0x2158, "4⁄5"), (0x2159, "1⁄6"),
  (0x215a, "5⁄6"), (0x215b, "1⁄8"), (0x215c, "3⁄8"), (0x215d, "5⁄8"), (0x215e, "7⁄8"),
  (0x215f, "1⁄"), (0x2161, "ii"), (0x2162, "iii"), (0x2163, "iv"), (0x2165, "vi"), (0x2166, "vii"),
  (0x2167, "viii"), (0x2168, "ix"), (0x216a, "xi"), (0x216b, "xii"), (0x2171, "ii"),
  (0x2172, "iii"), (0x2173, "iv"), (0x2175, "vi"), (0x2176, "vii"), (0x2177, "viii"),
  (0x2178, "ix"), (0x217a, "xi"), (0x217b, "xii"), (0x2189, "0⁄3"), (0x2469, "10"), (0x246a, "11"),
  (0x246b, "12"), (0x246c, "13"), (0x246d, "14"), (0x246e, "15"), (0x246f, "16"), (0x2470, "17"),
  (0x2471, "18"), (0x2472, "19"), (0x2473, "20"), (0x2474, "(1)"), (0x2475, "(2)"), (0x2476, "(3)"),
  (0x2477, "(4)"), (0x2478, "(5)"), (0x2479, "(6)"), (0x247a, "(7)"), (0x247b, "(8)"),
  (0x247c, "(9)"), (0x247d, "(10)"), (0x247e, "(11)"), (0x247f, "(12)"), (0x2480, "(13)"),
  (0x2481, "(14)"), (0x2482, "(15)"), (0x2483, "(16)"), (0x2484, "(17)"), (0x2485, "(18)"),
  (0x2486, "(19)"), (0x2487, "(20)"), (0x249c, "(a)"), (0x249d, "(b)"), (0x249e, "(c)"),
  (0x249f, "(d)"), (0x24a0, "(e)"), (0x24a1, "(f)"), (0x24a2, "(g)"), (0x24a3, "(h)"),
  (0x24a4, "(i)"), (0x24a5, "(j)"), (0x24a6, "(k)"), (0x24a7, "(l)"), (0x24a8, "(m)"),
  (0x24a9, "(n)"), (0x24aa, "(o)"), (0x24ab, "(p)"), (0x24ac, "(q)"), (0x24ad, "(r)"),
  (0x24ae, "(s)"), (0x24af, "(t)"), (0x24b0, "(u)"), (0x24b1, "(v)"), (0x24b2, "(w)"),
  (0x24b3, "(x)"), (0x24b4, "(y)"), (0x24b5, "(z)"), (0x2a74, "::="), (0x2a75, "=="),
  (0x2a76, "==="), (0x309b, " \u3099"), (0x309c, " \u309a"), (0x3200, "(ᄀ)"), (0x3201, "(ᄂ)"),
  (0x3202, "(ᄃ)"), (0x3203, "(ᄅ)"), (0x3204, "(ᄆ)"), (0x3205, "(ᄇ)"), (0x3206, "(ᄉ)"),
  (0x3207, "(ᄋ)"), (0x3208, "(ᄌ)"), (0x3209, "(ᄎ)"), (0x320a, "(ᄏ)"), (0x320b, "(ᄐ)"),
  (0x320c, "(ᄑ)"), (0x320d, "(ᄒ)"), (0x320e, "(가)"), (0x320f, "(나)"), (0x3210, "(다)"),
  (0x3211, "(라)"), (0x3212, "(마)"), (0x3213, "(바)"), (0x3214, "(사)"), (0x3215, "(아)"),
  (0x3216, "(자)"), (0x3217, "(차)"), (0x3218, "(카)"), (0x3219, "(타)"), (0x321a, "(파)"),
  (0x321b, "(하)"), (0x321c, "(주)"), (0x321d, "(오전)"), (0x321e, "(오후)"), (0x3220, "(一)"),
  (0x3221, "(二)"), (0x3222, "(三)"), (0x3223, "(四)"), (0x3224, "(五)"), (0x3225, "(六)"),
  (0x3226, "(七)"), (0x3227, "(八)"), (0x3228, "(九)"), (0x3229, "(十)"), (0x322a, "(月)"),
  (0x322b, "(火)"), (0x322c, "(水)"), (0x322d, "(木)"), (0x322e, "(金)"), (0x322f, "(土)"),
  (0x3230, "(日)"), (0x3231, "(株)"), (0x3232, "(有)"), (0x3233, "(社)"), (0x3234, "(名)"),
  (0x3235, "(特)"), (0x3236, "(財)"), (0x3237, "(祝)"), (0x3238, "(労)"), (0x3239, "(代)"),
  (0x323a, "(呼)"), (0x323b, "(学)"), (0x323c, "(監)"), (0x323d, "(企)"), (0x323e, "(資)"),
  (0x323f, "(協)"), (0x3240, "(祭)"), (0x3241, "(休)"), (0x3242, "(自)"), (0x3243, "(至)"),
  (0x3250, "pte"), (0x3251, "21"), (0x3252, "22"), (0x3253, "23"), (0x3254, "24"), (0x3255, "25"),
  (0x3256, "26"), (0x3257, "27"), (0x3258, "28"), (0x3259, "29"), (0x325a, "30"), (0x325b, "31"),
  (0x325c, "32"), (0x325d, "33"), (0x325e, "34"), (0x325f, "35"), (0x32b1, "36"), (0x32b2, "37"),
  (0x32b3, "38"), (0x32b4, "39"), (0x32b5, "40"), (0x32b6, "41"), (0x32b7, "42"), (0x32b8, "43"),
  (0x32b9, "44"), (0x32ba, "45"), (0x32bb, "46"), (0x32bc, "47"), (0x32bd, "48"), (0x32be, "49"),
  (0x32bf, "50"), (0x32c0, "1月"), (0x32c1, "2月"), (0x32c2, "3月"), (0x32c3, "4月"), (0x32c4, "5月"),
  (0x32c5, "6月"), (0x32c6, "7月"), (0x32c7, "8月"), (0x32c8, "9月"), (0x32c9, "10月"), (0x32ca, "11月"),
  (0x32cb, "12月"), (0x32cc, "hg"), (0x32cd, "erg"), (0x32ce, "ev"), (0x32cf, "ltd"), (0x3358, "0点"),
  (0x3359, "1点"), (0x335a, "2点"), (0x335b, "3点"), (0x335c, "4点"), (0x335d, "5点"), (0x335e, "6点"),
  (0x335f, "7点"), (0x3360, "8点"), (0x3361, "9点"), (0x3362, "10点"), (0x3363, "11点"), (0x3364, "12点"),
  (0x3365, "13点"), (0x3366, "14点"), (0x3367, "15点"), (0x3368, "16点"), (0x3369, "17点"),
  (0x336a, "18点"), (0x336b, "19点"), (0x336c, "20点"), (0x336d, "21点"), (0x336e, "22点"),
  (0x336f, "23点"), (0x3370, "24点"), (0x3371, "hpa"), (0x3372, "da"), (0x3373, "au"),
  (0x3374, "bar"), (0x3375, "ov"), (0x3376, "pc"), (0x3377, "dm"), (0x3378, "dm2"), (0x3379, "dm3"),
  (0x337a, "iu"), (0x3380, "pa"), (0x3381, "na"), (0x3382, "μa"), (0x3383, "ma"), (0x3384, "ka"),
  (0x3385, "kb"), (0x3386, "mb"), (0x3387, "gb"), (0x3388, "cal"), (0x3389, "kcal"), (0x338a, "pf"),
  (0x338b, "nf"), (0x338c, "μf"), (0x338d, "μg"), (0x338e, "mg"), (0x338f, "kg"), (0x3390, "hz"),
  (0x3391, "khz"), (0x3392, "mhz"), (0x3393, "ghz"), (0x3394, "thz"), (0x3395, "μl"),
  (0x3396, "ml"), (0x3397, "dl"), (0x3398, "kl"), (0x3399, "fm"), (0x339a, "nm"), (0x339b, "μm"),
  (0x339c, "mm"), (0x339d, "cm"), (0x339e, "km"), (0x339f, "mm2"), (0x33a0, "cm2"), (0x33a1, "m2"),
  (0x33a2, "km2"), (0x33a3, "mm3"), (0x33a4, "cm3"), (0x33a5, "m3"), (0x33a6, "km3"),
  (0x33a7, "m∕s"), (0x33a8, "m∕s2"), (0x33a9, "pa"), (0x33aa, "kpa"), (0x33ab, "mpa"),
  (0x33ac, "gpa"), (0x33ad, "rad"), (0x33ae, "rad∕s"), (0x33af, "rad∕s2"), (0x33b0, "ps"),
  (0x33b1, "ns"), (0x33b2, "μs"), (0x33b3, "ms"), (0x33b4, "pv"), (0x33b5, "nv"), (0x33b6, "μv"),
  (0x33b7, "mv"), (0x33b8, "kv"), (0x33b9, "mv"), (0x33ba, "pw"), (0x33bb, "nw"), (0x33bc, "μw"),
  (0x33bd, "mw"), (0x33be, "kw"), (0x33bf, "mw"), (0x33c0, "kω"), (0x33c1, "mω"), (0x33c3, "bq"),
  (0x33c4, "cc"), (0x33c5, "cd"), (0x33c6, "c∕kg"), (0x33c8, "db"), (0x33c9, "gy"), (0x33ca, "ha"),
  (0x33cb, "hp"), (0x33cc, "in"), (0x33cd, "kk"), (0x33ce, "km"), (0x33cf, "kt"), (0x33d0, "lm"),
  (0x33d1, "ln"), (0x33d2, "log"), (0x33d3, "lx"), (0x33d4, "mb"), (0x33d5, "mil"), (0x33d6, "mol"),
  (0x33d7, "ph"), (0x33d9, "ppm"), (0x33da, "pr"), (0x33db, "sr"), (0x33dc, "sv"), (0x33dd, "wb"),
  (0x33de, "v∕m"), (0x33df, "a∕m"), (0x33e0, "1日"), (0x33e1, "2日"), (0x33e2, "3日"), (0x33e3, "4日"),
  (0x33e4, "5日"), (0x33e5, "6日"), (0x33e6, "7日"), (0x33e7, "8日"), (0x33e8, "9日"), (0x33e9, "10日"),
  (0x33ea, "11日"), (0x33eb, "12日"), (0x33ec, "13日"), (0x33ed, "14日"), (0x33ee, "15日"),
  (0x33ef, "16日"), (0x33f0, "17日"), (0x33f1, "18日"), (0x33f2, "19日"), (0x33f3, "20日"),
  (0x33f4, "21日"), (0x33f5, "22日"), (0x33f6, "23日"), (0x33f7, "24日"), (0x33f8, "25日"),
  (0x33f9, "26日"), (0x33fa, "27日"), (0x33fb, "28日"), (0x33fc, "29日"), (0x33fd, "30日"),
  (0x33fe, "31日"), (0x33ff, "gal"), (0xfb00, "ff"), (0xfb01, "fi"), (0xfb02, "fl"), (0xfb03, "ffi"),
  (0xfb04, "ffl"), (0xfb05, "st"), (0xfb06, "st"), (0xfc5e, " \u064c\u0651"),
  (0xfc5f, " \u064d\u0651"), (0xfc60, " \u064e\u0651"), (0xfc61, " \u064f\u0651"),
  (0xfc62, " \u0650\u0651"), (0xfc63, " \u0651\u0670"), (0xfdfa, "صلى الله عليه وسلم"),
  (0xfdfb, "جل جلاله"), (0xfe49, " \u0305"), (0xfe4a, " \u0305"), (0xfe4b, " \u0305"),
  (0xfe4c, " \u0305"), (0xfe70, " \u064b"), (0xfe72, " \u064c"), (0xfe74, " \u064d"),
  (0xfe76, " \u064e"), (0xfe78, " \u064f"), (0xfe7a, " \u0650"), (0xfe7c, " \u0651"),
  (0xfe7e, " \u0652"), (0xff9e, "\u3099"), (0xff9f, "\u309a"), (0xffe3, " \u0304"), (0x1f101, "0,"),
  (0x1f102, "1,"), (0x1f103, "2,"), (0x1f104, "3,"), (0x1f105, "4,"), (0x1f106, "5,"),
  (0x1f107, "6,"), (0x1f108, "7,"), (0x1f109, "8,"), (0x1f10a, "9,"), (0x1f110, "(a)"),
  (0x1f111, "(b)"), (0x1f112, "(c)"), (0x1f113, "(d)"), (0x1f114, "(e)"), (0x1f115, "(f)"),
  (0x1f116, "(g)"), (0x1f117, "(h)"), (0x1f118, "(i)"), (0x1f119, "(j)"), (0x1f11a, "(k)"),
  (0x1f11b, "(l)"), (0x1f11c, "(m)"), (0x1f11d, "(n)"), (0x1f11e, "(o)"), (0x1f11f, "(p)"),
  (0x1f120, "(q)"), (0x1f121, "(r)"), (0x1f122, "(s)"), (0x1f123, "(t)"), (0x1f124, "(u)"),
  (0x1f125, "(v)"), (0x1f126, "(w)"), (0x1f127, "(x)"), (0x1f128, "(y)"), (0x1f129, "(z)"),
  (0x1f12a, "〔s〕"), (0x1f12d, "cd"), (0x1f12e, "wz"), (0x1f14a, "hv"), (0x1f14b, "mv"),
  (0x1f14c, "sd"), (0x1f14d, "ss"), (0x1f14e, "ppv"), (0x1f14f, "wc"), (0x1f16a, "mc"),
  (0x1f16b, "md"), (0x1f16c, "mr"), (0x1f190, "dj")]

/-- What a character stands for, if a host name may hold it. What stands for characters outside of
ASCII only is kept as it is. -/
def spelled? (c : Char) : Option (List Char) :=
  match stretches.find? (·.contains c.toNat) with
  | some s => some [Char.ofNat (s.image + (c.toNat - s.first))]
  | none =>
    match spellings.lookup c.toNat with
    | some word => some word.toList
    | none =>
      if refused.contains c then none else if ignored.contains c then some [] else some [c]

def isSettled (c : Char) : Bool :=
  spelled? c = some [c] && !isCapital c && !compatibles.contains c

end AssetSeed.HostName
