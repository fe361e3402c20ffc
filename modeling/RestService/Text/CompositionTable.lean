set_option autoImplicit false

namespace RestService.Text.CompositionTable

/-- Words of a character and those that it is composed of, marks in the order of their classes. -/
def words : List String := [
  "àa\u0300 áa\u0301 âa\u0302 ãa\u0303 äa\u0308 åa\u030a çc\u0327 èe\u0300 ée\u0301 êe\u0302",
  "ëe\u0308 ìi\u0300 íi\u0301 îi\u0302 ïi\u0308 ñn\u0303 òo\u0300 óo\u0301 ôo\u0302 õo\u0303",
  "öo\u0308 ùu\u0300 úu\u0301 ûu\u0302 üu\u0308 ýy\u0301 ÿy\u0308 āa\u0304 ăa\u0306 ąa\u0328",
  "ćc\u0301 ĉc\u0302 ċc\u0307 čc\u030c ďd\u030c ēe\u0304 ĕe\u0306 ėe\u0307 ęe\u0328 ěe\u030c",
  "ĝg\u0302 ğg\u0306 ġg\u0307 ģg\u0327 ĥh\u0302 ĩi\u0303 īi\u0304 ĭi\u0306 įi\u0328 ĵj\u0302",
  "ķk\u0327 ĺl\u0301 ļl\u0327 ľl\u030c ńn\u0301 ņn\u0327 ňn\u030c ōo\u0304 ŏo\u0306 őo\u030b",
  "ŕr\u0301 ŗr\u0327 řr\u030c śs\u0301 ŝs\u0302 şs\u0327 šs\u030c ţt\u0327 ťt\u030c ũu\u0303",
  "ūu\u0304 ŭu\u0306 ůu\u030a űu\u030b ųu\u0328 ŵw\u0302 ŷy\u0302 źz\u0301 żz\u0307 žz\u030c",
  "ơo\u031b ưu\u031b ǎa\u030c ǐi\u030c ǒo\u030c ǔu\u030c ǖu\u0308\u0304 ǘu\u0308\u0301",
  "ǚu\u0308\u030c ǜu\u0308\u0300 ǟa\u0308\u0304 ǡa\u0307\u0304 ǣæ\u0304 ǧg\u030c ǩk\u030c",
  "ǫo\u0328 ǭo\u0328\u0304 ǯʒ\u030c ǰj\u030c ǵg\u0301 ǹn\u0300 ǻa\u030a\u0301 ǽæ\u0301 ǿø\u0301",
  "ȁa\u030f ȃa\u0311 ȅe\u030f ȇe\u0311 ȉi\u030f ȋi\u0311 ȍo\u030f ȏo\u0311 ȑr\u030f ȓr\u0311",
  "ȕu\u030f ȗu\u0311 șs\u0326 țt\u0326 ȟh\u030c ȧa\u0307 ȩe\u0327 ȫo\u0308\u0304 ȭo\u0303\u0304",
  "ȯo\u0307 ȱo\u0307\u0304 ȳy\u0304 ΐι\u0308\u0301 άα\u0301 έε\u0301 ήη\u0301 ίι\u0301",
  "ΰυ\u0308\u0301 ϊι\u0308 ϋυ\u0308 όο\u0301 ύυ\u0301 ώω\u0301 йи\u0306 ѐе\u0300 ёе\u0308",
  "ѓг\u0301 їі\u0308 ќк\u0301 ѝи\u0300 ўу\u0306 ѷѵ\u030f ӂж\u0306 ӑа\u0306 ӓа\u0308 ӗе\u0306",
  "ӛә\u0308 ӝж\u0308 ӟз\u0308 ӣи\u0304 ӥи\u0308 ӧо\u0308 ӫө\u0308 ӭэ\u0308 ӯу\u0304 ӱу\u0308",
  "ӳу\u030b ӵч\u0308 ӹы\u0308 \u0622\u0627\u0653 \u0623\u0627\u0654 \u0624\u0648\u0654",
  "\u0625\u0627\u0655 \u0626\u064a\u0654 \u06c0\u06d5\u0654 \u06c2\u06c1\u0654",
  "\u06d3\u06d2\u0654 ऩन\u093c ऱर\u093c ऴळ\u093c \u09cb\u09c7\u09be \u09cc\u09c7\u09d7",
  "\u0b48\u0b47\u0b56 \u0b4b\u0b47\u0b3e \u0b4c\u0b47\u0b57 ஔஒ\u0bd7 \u0bca\u0bc6\u0bbe",
  "\u0bcb\u0bc7\u0bbe \u0bcc\u0bc6\u0bd7 \u0c48\u0c46\u0c56 \u0cc0\u0cbf\u0cd5",
  "\u0cc7\u0cc6\u0cd5 \u0cc8\u0cc6\u0cd6 \u0cca\u0cc6\u0cc2 \u0ccb\u0cc6\u0cc2\u0cd5",
  "\u0d4a\u0d46\u0d3e \u0d4b\u0d47\u0d3e \u0d4c\u0d46\u0d57 \u0dda\u0dd9\u0dca",
  "\u0ddc\u0dd9\u0dcf \u0ddd\u0dd9\u0dcf\u0dca \u0dde\u0dd9\u0ddf \u1026\u1025\u102e ᬆᬅ\u1b35",
  "ᬈᬇ\u1b35 ᬊᬉ\u1b35 ᬌᬋ\u1b35 ᬎᬍ\u1b35 ᬒᬑ\u1b35 \u1b3b\u1b3a\u1b35 \u1b3d\u1b3c\u1b35",
  "\u1b40\u1b3e\u1b35 \u1b41\u1b3f\u1b35 \u1b43\u1b42\u1b35 ḁa\u0325 ḃb\u0307 ḅb\u0323 ḇb\u0331",
  "ḉc\u0327\u0301 ḋd\u0307 ḍd\u0323 ḏd\u0331 ḑd\u0327 ḓd\u032d ḕe\u0304\u0300 ḗe\u0304\u0301",
  "ḙe\u032d ḛe\u0330 ḝe\u0327\u0306 ḟf\u0307 ḡg\u0304 ḣh\u0307 ḥh\u0323 ḧh\u0308 ḩh\u0327",
  "ḫh\u032e ḭi\u0330 ḯi\u0308\u0301 ḱk\u0301 ḳk\u0323 ḵk\u0331 ḷl\u0323 ḹl\u0323\u0304 ḻl\u0331",
  "ḽl\u032d ḿm\u0301 ṁm\u0307 ṃm\u0323 ṅn\u0307 ṇn\u0323 ṉn\u0331 ṋn\u032d ṍo\u0303\u0301",
  "ṏo\u0303\u0308 ṑo\u0304\u0300 ṓo\u0304\u0301 ṕp\u0301 ṗp\u0307 ṙr\u0307 ṛr\u0323",
  "ṝr\u0323\u0304 ṟr\u0331 ṡs\u0307 ṣs\u0323 ṥs\u0301\u0307 ṧs\u030c\u0307 ṩs\u0323\u0307",
  "ṫt\u0307 ṭt\u0323 ṯt\u0331 ṱt\u032d ṳu\u0324 ṵu\u0330 ṷu\u032d ṹu\u0303\u0301 ṻu\u0304\u0308",
  "ṽv\u0303 ṿv\u0323 ẁw\u0300 ẃw\u0301 ẅw\u0308 ẇw\u0307 ẉw\u0323 ẋx\u0307 ẍx\u0308 ẏy\u0307",
  "ẑz\u0302 ẓz\u0323 ẕz\u0331 ẖh\u0331 ẗt\u0308 ẘw\u030a ẙy\u030a ạa\u0323 ảa\u0309",
  "ấa\u0302\u0301 ầa\u0302\u0300 ẩa\u0302\u0309 ẫa\u0302\u0303 ậa\u0323\u0302 ắa\u0306\u0301",
  "ằa\u0306\u0300 ẳa\u0306\u0309 ẵa\u0306\u0303 ặa\u0323\u0306 ẹe\u0323 ẻe\u0309 ẽe\u0303",
  "ếe\u0302\u0301 ềe\u0302\u0300 ểe\u0302\u0309 ễe\u0302\u0303 ệe\u0323\u0302 ỉi\u0309 ịi\u0323",
  "ọo\u0323 ỏo\u0309 ốo\u0302\u0301 ồo\u0302\u0300 ổo\u0302\u0309 ỗo\u0302\u0303 ộo\u0323\u0302",
  "ớo\u031b\u0301 ờo\u031b\u0300 ởo\u031b\u0309 ỡo\u031b\u0303 ợo\u031b\u0323 ụu\u0323 ủu\u0309",
  "ứu\u031b\u0301 ừu\u031b\u0300 ửu\u031b\u0309 ữu\u031b\u0303 ựu\u031b\u0323 ỳy\u0300 ỵy\u0323",
  "ỷy\u0309 ỹy\u0303 ἀα\u0313 ἁα\u0314 ἂα\u0313\u0300 ἃα\u0314\u0300 ἄα\u0313\u0301",
  "ἅα\u0314\u0301 ἆα\u0313\u0342 ἇα\u0314\u0342 ἐε\u0313 ἑε\u0314 ἒε\u0313\u0300 ἓε\u0314\u0300",
  "ἔε\u0313\u0301 ἕε\u0314\u0301 ἠη\u0313 ἡη\u0314 ἢη\u0313\u0300 ἣη\u0314\u0300 ἤη\u0313\u0301",
  "ἥη\u0314\u0301 ἦη\u0313\u0342 ἧη\u0314\u0342 ἰι\u0313 ἱι\u0314 ἲι\u0313\u0300 ἳι\u0314\u0300",
  "ἴι\u0313\u0301 ἵι\u0314\u0301 ἶι\u0313\u0342 ἷι\u0314\u0342 ὀο\u0313 ὁο\u0314 ὂο\u0313\u0300",
  "ὃο\u0314\u0300 ὄο\u0313\u0301 ὅο\u0314\u0301 ὐυ\u0313 ὑυ\u0314 ὒυ\u0313\u0300 ὓυ\u0314\u0300",
  "ὔυ\u0313\u0301 ὕυ\u0314\u0301 ὖυ\u0313\u0342 ὗυ\u0314\u0342 ὠω\u0313 ὡω\u0314 ὢω\u0313\u0300",
  "ὣω\u0314\u0300 ὤω\u0313\u0301 ὥω\u0314\u0301 ὦω\u0313\u0342 ὧω\u0314\u0342 ὰα\u0300 ὲε\u0300",
  "ὴη\u0300 ὶι\u0300 ὸο\u0300 ὺυ\u0300 ὼω\u0300 ᾰα\u0306 ᾱα\u0304 ᾶα\u0342 ῆη\u0342 ῐι\u0306",
  "ῑι\u0304 ῒι\u0308\u0300 ῖι\u0342 ῗι\u0308\u0342 ῠυ\u0306 ῡυ\u0304 ῢυ\u0308\u0300 ῤρ\u0313",
  "ῥρ\u0314 ῦυ\u0342 ῧυ\u0308\u0342 ῶω\u0342 \u219a\u2190\u0338 \u219b\u2192\u0338",
  "\u21ae\u2194\u0338 \u21cd\u21d0\u0338 \u21ce\u21d4\u0338 \u21cf\u21d2\u0338",
  "\u2204\u2203\u0338 \u2209\u2208\u0338 \u220c\u220b\u0338 \u2224\u2223\u0338",
  "\u2226\u2225\u0338 \u2241\u223c\u0338 \u2244\u2243\u0338 \u2247\u2245\u0338",
  "\u2249\u2248\u0338 \u2260=\u0338 \u2262\u2261\u0338 \u226d\u224d\u0338 \u226e<\u0338",
  "\u226f>\u0338 \u2270\u2264\u0338 \u2271\u2265\u0338 \u2274\u2272\u0338 \u2275\u2273\u0338",
  "\u2278\u2276\u0338 \u2279\u2277\u0338 \u2280\u227a\u0338 \u2281\u227b\u0338",
  "\u2284\u2282\u0338 \u2285\u2283\u0338 \u2288\u2286\u0338 \u2289\u2287\u0338",
  "\u22ac\u22a2\u0338 \u22ad\u22a8\u0338 \u22ae\u22a9\u0338 \u22af\u22ab\u0338",
  "\u22e0\u227c\u0338 \u22e1\u227d\u0338 \u22e2\u2291\u0338 \u22e3\u2292\u0338",
  "\u22ea\u22b2\u0338 \u22eb\u22b3\u0338 \u22ec\u22b4\u0338 \u22ed\u22b5\u0338 がか\u3099",
  "ぎき\u3099 ぐく\u3099 げけ\u3099 ごこ\u3099 ざさ\u3099 じし\u3099 ずす\u3099 ぜせ\u3099 ぞそ\u3099 だた\u3099",
  "ぢち\u3099 づつ\u3099 でて\u3099 どと\u3099 ばは\u3099 ぱは\u309a びひ\u3099 ぴひ\u309a ぶふ\u3099 ぷふ\u309a",
  "べへ\u3099 ぺへ\u309a ぼほ\u3099 ぽほ\u309a ゔう\u3099 \u309e\u309d\u3099 ガカ\u3099 ギキ\u3099 グク\u3099",
  "ゲケ\u3099 ゴコ\u3099 ザサ\u3099 ジシ\u3099 ズス\u3099 ゼセ\u3099 ゾソ\u3099 ダタ\u3099 ヂチ\u3099 ヅツ\u3099",
  "デテ\u3099 ドト\u3099 バハ\u3099 パハ\u309a ビヒ\u3099 ピヒ\u309a ブフ\u3099 プフ\u309a ベヘ\u3099 ペヘ\u309a",
  "ボホ\u3099 ポホ\u309a ヴウ\u3099 ヷワ\u3099 ヸヰ\u3099 ヹヱ\u3099 ヺヲ\u3099 \u30fe\u30fd\u3099 𐗉𐗒\u0307",
  "𐗤𐗚\u0307 𑂚𑂚 𑂜𑂜 𑂫𑂫 𑄮𑄮 𑄯𑄯 𑍋𑍋 𑍌𑍌 𑎃𑎃 𑎅𑎅 𑎎𑎎 𑎑𑎑 𑏅𑏅 𑏇𑏇 𑏈𑏈 𑒻𑒻 𑒼𑒼 𑒾𑒾 𑖺𑖺 𑖻𑖻 𑤸𑤸 𖄡𖄡",
  "𖄢𖄢 𖄣𖄣 𖄤𖄤 𖄥𖄥 𖄦𖄦 𖄧𖄧 𖄨𖄨 𖵨𖵨 𖵩𖵩 𖵪𖵪"]

end RestService.Text.CompositionTable
