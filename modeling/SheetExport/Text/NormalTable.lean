/-
**Tables of the plain form of names (Unicode 14.0).**

`compositions` joins a character and a mark into one character, and read the other way it takes
composed characters apart. `variantRuns` and `joinedRuns` list the characters of names that are
variants of others or stand for several, from a code point on. `markClasses` orders the marks that
stand on one character.
-/

import SheetExport.Text.Ranges

set_option maxRecDepth 8000

namespace SheetExport.Text

/-- A mark, characters that it is joined to, and what comes of each. -/
def compositions : List (Char × String × String) := [
  ('\u0300', "AEIOUaeiouÜüNnЕИеиĒēŌōWwÂâĂăÊêÔôƠơ", "ÀÈÌÒÙàèìòùǛǜǸǹЀЍѐѝḔḕṐṑẀẁẦầẰằỀềỒồỜờ"),
  ('\u0300', "ƯưYyἀἁἈἉἐἑἘἙἠἡἨἩἰἱἸἹὀὁὈὉὐὑὙὠὡὨὩαεη", "ỪừỲỳἂἃἊἋἒἓἚἛἢἣἪἫἲἳἺἻὂὃὊὋὒὓὛὢὣὪὫὰὲὴ"),
  ('\u0300', "ιουωΑΕΗ᾿ϊΙ῾ϋΥ¨ΟΩ", "ὶὸὺὼᾺῈῊ῍ῒῚ῝ῢῪ῭ῸῺ"),
  ('\u0301', "AEIOUYaeiouyCcLlNnRrSsZzÜüGgÅåÆæØø", "ÁÉÍÓÚÝáéíóúýĆćĹĺŃńŔŕŚśŹźǗǘǴǵǺǻǼǽǾǿ"),
  ('\u0301', "¨ΑΕΗΙΟΥΩϊαεηιϋουωϒГКгкÇçĒēÏïKkMmÕõ", "΅ΆΈΉΊΌΎΏΐάέήίΰόύώϓЃЌѓќḈḉḖḗḮḯḰḱḾḿṌṍ"),
  ('\u0301', "ŌōPpŨũWwÂâĂăÊêÔôƠơƯưἀἁἈἉἐἑἘἙἠἡἨἩἰἱ", "ṒṓṔṕṸṹẂẃẤấẮắẾếỐốỚớỨứἄἅἌἍἔἕἜἝἤἥἬἭἴἵ"),
  ('\u0301', "ἸἹὀὁὈὉὐὑὙὠὡὨὩ᾿῾", "ἼἽὄὅὌὍὔὕὝὤὥὬὭ῎῞"),
  ('\u0302', "AEIOUaeiouCcGgHhJjSsWwYyZzẠạẸẹỌọ", "ÂÊÎÔÛâêîôûĈĉĜĝĤĥĴĵŜŝŴŵŶŷẐẑẬậỆệỘộ"),
  ('\u0303', "ANOanoIiUuVvÂâĂăEeÊêÔôƠơƯưYy", "ÃÑÕãñõĨĩŨũṼṽẪẫẴẵẼẽỄễỖỗỠỡỮữỸỹ"),
  ('\u0304', "AaEeIiOoUuÜüÄäȦȧÆæǪǫÖöÕõȮȯYyИиУуGg", "ĀāĒēĪīŌōŪūǕǖǞǟǠǡǢǣǬǭȪȫȬȭȰȱȲȳӢӣӮӯḠḡ"),
  ('\u0304', "ḶḷṚṛαΑιΙυΥ", "ḸḹṜṝᾱᾹῑῙῡῩ"),
  ('\u0306', "AaEeGgIiOoUuУИиуЖжАаЕеȨȩẠạαΑιΙυΥ", "ĂăĔĕĞğĬĭŎŏŬŭЎЙйўӁӂӐӑӖӗḜḝẶặᾰᾸῐῘῠῨ"),
  ('\u0307', "CcEeGgIZzAaOoBbDdFfHhMmNnPpRrSsŚśŠ", "ĊċĖėĠġİŻżȦȧȮȯḂḃḊḋḞḟḢḣṀṁṄṅṖṗṘṙṠṡṤṥṦ"),
  ('\u0307', "šṢṣTtWwXxYyſ", "ṧṨṩṪṫẆẇẊẋẎẏẛ"),
  ('\u0308', "AEIOUaeiouyYΙΥιυϒЕІеіАаӘәЖжЗзИиОоӨ", "ÄËÏÖÜäëïöüÿŸΪΫϊϋϔЁЇёїӒӓӚӛӜӝӞӟӤӥӦӧӪ"),
  ('\u0308', "өЭэУуЧчЫыHhÕõŪūWwXxt", "ӫӬӭӰӱӴӵӸӹḦḧṎṏṺṻẄẅẌẍẗ"),
  ('\u0309', "AaÂâĂăEeÊêIiOoÔôƠơUuƯưYy", "ẢảẨẩẲẳẺẻỂểỈỉỎỏỔổỞởỦủỬửỶỷ"),
  ('\u030a', "AaUuwy", "ÅåŮůẘẙ"), ('\u030b', "OoUuУу", "ŐőŰűӲӳ"),
  ('\u030c', "CcDdEeLlNnRrSsTtZzAaIiOoUuÜüGgKkƷʒjHh", "ČčĎďĚěĽľŇňŘřŠšŤťŽžǍǎǏǐǑǒǓǔǙǚǦǧǨǩǮǯǰȞȟ"),
  ('\u030f', "AaEeIiOoRrUuѴѵ", "ȀȁȄȅȈȉȌȍȐȑȔȕѶѷ"), ('\u0311', "AaEeIiOoRrUu", "ȂȃȆȇȊȋȎȏȒȓȖȗ"),
  ('\u0313', "αΑεΕηΗιΙοΟυωΩρ", "ἀἈἐἘἠἨἰἸὀὈὐὠὨῤ"),
  ('\u0314', "αΑεΕηΗιΙοΟυΥωΩρΡ", "ἁἉἑἙἡἩἱἹὁὉὑὙὡὩῥῬ"), ('\u031b', "OoUu", "ƠơƯư"),
  ('\u0323', "BbDdHhKkLlMmNnRrSsTtVvWwZzAaEeIiOo", "ḄḅḌḍḤḥḲḳḶḷṂṃṆṇṚṛṢṣṬṭṾṿẈẉẒẓẠạẸẹỊịỌọ"),
  ('\u0323', "ƠơUuƯưYy", "ỢợỤụỰựỴỵ"), ('\u0324', "Uu", "Ṳṳ"), ('\u0325', "Aa", "Ḁḁ"),
  ('\u0326', "SsTt", "ȘșȚț"), ('\u0327', "CcGgKkLlNnRrSsTtEeDdHh", "ÇçĢģĶķĻļŅņŖŗŞşŢţȨȩḐḑḨḩ"),
  ('\u0328', "AaEeIiUuOo", "ĄąĘęĮįŲųǪǫ"), ('\u032d', "DdEeLlNnTtUu", "ḒḓḘḙḼḽṊṋṰṱṶṷ"),
  ('\u032e', "Hh", "Ḫḫ"), ('\u0330', "EeIiUu", "ḚḛḬḭṴṵ"),
  ('\u0331', "BbDdKkLlNnRrTtZzh", "ḆḇḎḏḴḵḺḻṈṉṞṟṮṯẔẕẖ"),
  ('\u0338', "←→↔⇐⇔⇒∃∈∋∣∥∼≃≅≈=≡≍<>≤≥≲≳≶≷≺≻⊂⊃⊆⊇⊢⊨", "↚↛↮⇍⇎⇏∄∉∌∤∦≁≄≇≉≠≢≭≮≯≰≱≴≵≸≹⊀⊁⊄⊅⊈⊉⊬⊭"),
  ('\u0338', "⊩⊫≼≽⊑⊒⊲⊳⊴⊵", "⊮⊯⋠⋡⋢⋣⋪⋫⋬⋭"),
  ('\u0342', "ἀἁἈἉἠἡἨἩἰἱἸἹὐὑὙὠὡὨὩα¨η᾿ιϊ῾υϋω", "ἆἇἎἏἦἧἮἯἶἷἾἿὖὗὟὦὧὮὯᾶ῁ῆ῏ῖῗ῟ῦῧῶ"),
  ('\u0345', "ἀἁἂἃἄἅἆἇἈἉἊἋἌἍἎἏἠἡἢἣἤἥἦἧἨἩἪἫἬἭἮἯὠὡ", "ᾀᾁᾂᾃᾄᾅᾆᾇᾈᾉᾊᾋᾌᾍᾎᾏᾐᾑᾒᾓᾔᾕᾖᾗᾘᾙᾚᾛᾜᾝᾞᾟᾠᾡ"),
  ('\u0345', "ὢὣὤὥὦὧὨὩὪὫὬὭὮὯὰαάᾶΑὴηήῆΗὼωώῶΩ", "ᾢᾣᾤᾥᾦᾧᾨᾩᾪᾫᾬᾭᾮᾯᾲᾳᾴᾷᾼῂῃῄῇῌῲῳῴῷῼ"),
  ('\u0653', "\u0627", "\u0622"),
  ('\u0654', "\u0627\u0648\u064a\u06d5\u06c1\u06d2", "\u0623\u0624\u0626\u06c0\u06c2\u06d3"),
  ('\u0655', "\u0627", "\u0625"), ('\u093c', "नरळ", "ऩऱऴ"), ('\u09be', "\u09c7", "\u09cb"),
  ('\u09d7', "\u09c7", "\u09cc"), ('\u0b3e', "\u0b47", "\u0b4b"), ('\u0b56', "\u0b47", "\u0b48"),
  ('\u0b57', "\u0b47", "\u0b4c"), ('\u0bbe', "\u0bc6\u0bc7", "\u0bca\u0bcb"),
  ('\u0bd7', "ஒ\u0bc6", "ஔ\u0bcc"), ('\u0c56', "\u0c46", "\u0c48"), ('\u0cc2', "\u0cc6", "\u0cca"),
  ('\u0cd5', "\u0cbf\u0cc6\u0cca", "\u0cc0\u0cc7\u0ccb"), ('\u0cd6', "\u0cc6", "\u0cc8"),
  ('\u0d3e', "\u0d46\u0d47", "\u0d4a\u0d4b"), ('\u0d57', "\u0d46", "\u0d4c"),
  ('\u0dca', "\u0dd9\u0ddc", "\u0dda\u0ddd"), ('\u0dcf', "\u0dd9", "\u0ddc"),
  ('\u0ddf', "\u0dd9", "\u0dde"), ('\u102e', "ဥ", "ဦ"),
  ('\u1b35', "ᬅᬇᬉᬋᬍᬑ\u1b3a\u1b3c\u1b3e\u1b3f\u1b42", "ᬆᬈᬊᬌᬎᬒ\u1b3b\u1b3d\u1b40\u1b41\u1b43"),
  ('\u3099', "かきくけこさしすせそたちつてとはひふへほう\u309dカキクケコサシスセソタチ", "がぎぐげござじずぜぞだぢづでどばびぶべぼゔ\u309eガギグゲゴザジズゼゾダヂ"),
  ('\u3099', "ツテトハヒフヘホウワヰヱヲ\u30fd", "ヅデドバビブベボヴヷヸヹヺ\u30fe"), ('\u309a', "はひふへほハヒフヘホ", "ぱぴぷぺぽパピプペポ"),
  ('𑂺', "𑂙𑂛𑂥", "𑂚𑂜𑂫"), ('𑄧', "𑄱𑄲", "𑄮𑄯"), ('𑌾', "𑍇", "𑍋"), ('𑍗', "𑍇", "𑍌"), ('𑒰', "𑒹", "𑒼"),
  ('𑒺', "𑒹", "𑒻"), ('𑒽', "𑒹", "𑒾"), ('𑖯', "𑖸𑖹", "𑖺𑖻"), ('𑤰', "𑤵", "𑤸")]

/-- Variants of characters from a code point on. -/
def variantRuns : List (Nat × String) := [
  (170, "a"), (181, "μ"), (186, "o"), (383, "s"), (688, "hɦjrɹɻʁwy"), (736, "ɣlsxʕ"),
  (832, "\u0300\u0301"), (835, "\u0313"), (884, "\u02b9"), (903, "·"), (976, "βθΥ"), (981, "φπ"),
  (1008, "κρς"), (1012, "Θε"), (1017, "Σ"), (4348, "ნ"), (7468, "AÆB"), (7472, "DEƎGHIJKLMN"),
  (7484, "OȢPRTUWaɐɑᴂbdeəɛɜg"), (7503, "kmŋoɔᴖᴗptuᴝɯvᴥβγδφχiruvβγρφχ"), (7544, "н"),
  (7579, "ɒcɕðɜfɟɡɥɨɩɪᵻʝɭᶅʟɱɰɲɳɴɵɸʂʃƫʉʊᴜʋʌzʐʑʒθ"), (8126, "ι"), (8305, "i"), (8319, "n"),
  (8336, "aeoxəhklmnpst"), (8450, "C"), (8455, "Ɛ"), (8458, "gHHHhħIILl"), (8469, "N"),
  (8473, "PQRRR"), (8484, "Z"), (8486, "Ω"), (8488, "Z"), (8490, "K"), (8492, "BC"), (8495, "eEF"),
  (8499, "Mo\u05d0\u05d1\u05d2\u05d3i"), (8508, "πγΓΠ"), (8517, "Ddeij"), (8544, "I"), (8548, "V"),
  (8553, "X"), (8556, "LCDMi"), (8564, "v"), (8569, "x"), (8572, "lcdm"), (11388, "jV"),
  (11631, "ⵡ"), (12344, "十卄卅"),
  (12593, "ᄀᄁᆪᄂᆬᆭᄃᄄᄅᆰᆱᆲᆳᆴᆵᄚᄆᄇᄈᄡᄉᄊᄋᄌᄍᄎᄏᄐᄑ하ᅢᅣᅤᅥᅦᅧᅨᅩᅪᅫᅬᅭᅮᅯᅰᅱᅲᅳᅴᅵᅠᄔᄕᇇᇈᇌᇎᇓᇗᇙᄜᇝᇟᄝᄞᄠᄢᄣᄧᄩᄫᄬᄭᄮᄯᄲᄶᅀᅇᅌᇱᇲᅗᅘᅙ"),
  (12679, "ᆄᆅᆈᆑᆒᆔᆞᆡ"), (42652, "ъь"), (42864, "ꝯ"), (42994, "CFQ"), (43000, "Ħœ"), (43868, "ꜧꬷɫꭒ"),
  (43881, "ʍ"),
  (63744, "豈更車賈滑串句龜龜契金喇奈懶癩羅蘿螺裸邏樂洛烙珞落酪駱亂卵欄爛蘭鸞嵐濫藍襤拉臘蠟廊朗浪狼郎來冷勞擄櫓爐盧老蘆虜路露魯鷺碌祿綠菉錄鹿論壟弄籠聾牢磊賂雷壘屢樓淚漏累縷陋勒肋凜凌"),
  (63830, "稜綾菱陵讀拏樂諾丹寧怒率異北磻便復不泌數索參塞省葉說殺辰沈拾若掠略亮兩凉梁糧良諒量勵呂女廬旅濾礪閭驪麗黎力曆歷轢年憐戀撚漣煉璉秊練聯輦蓮連鍊列劣咽烈裂說廉念捻殮簾獵令囹寧嶺"),
  (63916, "怜玲瑩羚聆鈴零靈領例禮醴隸惡了僚寮尿料樂燎療蓼遼龍暈阮劉杻柳流溜琉留硫紐類六戮陸倫崙淪輪律慄栗率隆利吏履易李梨泥理痢罹裏裡里離匿溺吝燐璘藺隣鱗麟林淋臨立笠粒狀炙識什茶刺切度"),
  (64002, "拓糖宅洞暴輻行降見廓兀嗀"), (64016, "塚"), (64018, "晴"), (64021, "凞猪益礼神祥福靖精羽"), (64032, "蘒"),
  (64034, "諸"), (64037, "逸都"),
  (64042, "飯飼館鶴郞隷侮僧免勉勤卑喝嘆器塀墨層屮悔慨憎懲敏既暑梅海渚漢煮爫琢碑社祉祈祐祖祝禍禎穀突節練縉繁署者臭艹艹著褐視謁謹賓贈辶逸難響頻恵𤋮舘"),
  (64112, "並况全侀充冀勇勺喝啕喙嗢塚墳奄奔婢嬨廒廙彩徭惘慎愈憎慠懲戴揄搜摒敖晴朗望杖歹殺流滛滋漢瀞煮瞧爵犯猪瑱甆画瘝瘟益盛直睊着磌窱節类絛練缾者荒華蝹襁覆視調諸請謁諾諭謹變贈輸遲醙鉶"),
  (64198, "陼難靖韛響頋頻鬒龜𢡊𢡄𣏕㮝䀘䀹𥉉𥳐𧻓齃龎"),
  (64288, "\u05e2\u05d0\u05d3\u05d4\u05db\u05dc\u05dd\u05e8\u05ea"),
  (64336, "\u0671\u0671\u067b\u067b\u067b\u067b\u067e\u067e\u067e\u067e\u0680\u0680\u0680\u0680"),
  (64350, "\u067a\u067a\u067a\u067a\u067f\u067f\u067f\u067f\u0679\u0679\u0679\u0679\u06a4\u06a4"),
  (64364, "\u06a4\u06a4\u06a6\u06a6\u06a6\u06a6\u0684\u0684\u0684\u0684\u0683\u0683\u0683\u0683"),
  (64378, "\u0686\u0686\u0686\u0686\u0687\u0687\u0687\u0687\u068d\u068d\u068c\u068c\u068e\u068e"),
  (64392, "\u0688\u0688\u0698\u0698\u0691\u0691\u06a9\u06a9\u06a9\u06a9\u06af\u06af\u06af\u06af"),
  (64406, "\u06b3\u06b3\u06b3\u06b3\u06b1\u06b1\u06b1\u06b1\u06ba\u06ba\u06bb\u06bb\u06bb\u06bb"),
  (64422, "\u06c1\u06c1\u06c1\u06c1\u06be\u06be\u06be\u06be\u06d2\u06d2"),
  (64467, "\u06ad\u06ad\u06ad\u06ad\u06c7\u06c7\u06c6\u06c6\u06c8\u06c8"),
  (64478, "\u06cb\u06cb\u06c5\u06c5\u06c9\u06c9\u06d0\u06d0\u06d0\u06d0\u0649\u0649"),
  (64508, "\u06cc\u06cc\u06cc\u06cc"), (65075, "__"), (65101, "___"), (65152, "\u0621"),
  (65165, "\u0627\u0627\u0628\u0628\u0628\u0628\u0629\u0629\u062a\u062a\u062a\u062a\u062b\u062b"),
  (65179, "\u062b\u062b\u062c\u062c\u062c\u062c\u062d\u062d\u062d\u062d\u062e\u062e\u062e\u062e"),
  (65193, "\u062f\u062f\u0630\u0630\u0631\u0631\u0632\u0632\u0633\u0633\u0633\u0633\u0634\u0634"),
  (65207, "\u0634\u0634\u0635\u0635\u0635\u0635\u0636\u0636\u0636\u0636\u0637\u0637\u0637\u0637"),
  (65221, "\u0638\u0638\u0638\u0638\u0639\u0639\u0639\u0639\u063a\u063a\u063a\u063a\u0641\u0641"),
  (65235, "\u0641\u0641\u0642\u0642\u0642\u0642\u0643\u0643\u0643\u0643\u0644\u0644\u0644\u0644"),
  (65249, "\u0645\u0645\u0645\u0645\u0646\u0646\u0646\u0646\u0647\u0647\u0647\u0647\u0648\u0648"),
  (65263, "\u0649\u0649\u064a\u064a\u064a\u064a"), (65296, "0123456789"),
  (65313, "ABCDEFGHIJKLMNOPQRSTUVWXYZ"), (65343, "_"), (65345, "abcdefghijklmnopqrstuvwxyz"),
  (65382, "ヲァィゥェォャュョッ\u30fcアイウエオカキクケコサシスセソタチツテトナニヌネノハヒフヘホマミムメモヤユヨラリルレロワン\u3099\u309aᅠᄀᄁᆪᄂᆬᆭᄃᄄᄅᆰᆱᆲ"),
  (65453, "ᆳᆴᆵᄚᄆᄇᄈᄡᄉᄊᄋᄌᄍᄎᄏᄐᄑᄒ"), (65474, "ᅡᅢᅣᅤᅥᅦ"), (65482, "ᅧᅨᅩᅪᅫᅬ"), (65490, "ᅭᅮᅯᅰᅱᅲ"),
  (65498, "ᅳᅴᅵ"), (67457, "\u02d0\u02d1æʙɓ"), (67463, "ʣꭦʥʤɖɗᶑɘɞʩɤɢɠʛħʜɧʄʪʫɬ𝼄ꞎɮ𝼅ʎ𝼆øɶɷqɺ𝼈ɽɾʀʨʦꭧʧʈⱱ"),
  (67506, "ʏʡʢʘǀǁǂ𝼊𝼞"),
  (119808, "ABCDEFGHIJKLMNOPQRSTUVWXYZabcdefghijklmnopqrstuvwxyzABCDEFGHIJKLMNOPQRSTUVWXYZabcdefg"),
  (119894, "ijklmnopqrstuvwxyzABCDEFGHIJKLMNOPQRSTUVWXYZabcdefghijklmnopqrstuvwxyzA"),
  (119966, "CD"), (119970, "G"), (119973, "JK"), (119977, "NOPQ"), (119982, "STUVWXYZabcd"),
  (119995, "f"), (119997, "hijklmn"),
  (120005, "pqrstuvwxyzABCDEFGHIJKLMNOPQRSTUVWXYZabcdefghijklmnopqrstuvwxyzAB"), (120071, "DEFG"),
  (120077, "JKLMNOPQ"), (120086, "STUVWXY"), (120094, "abcdefghijklmnopqrstuvwxyzAB"),
  (120123, "DEFG"), (120128, "IJKLM"), (120134, "O"), (120138, "STUVWXY"),
  (120146, "abcdefghijklmnopqrstuvwxyzABCDEFGHIJKLMNOPQRSTUVWXYZabcdefghijklmnopqrstuvwxyzABCDEFG"),
  (120231, "HIJKLMNOPQRSTUVWXYZabcdefghijklmnopqrstuvwxyzABCDEFGHIJKLMNOPQRSTUVWXYZabcdefghijklmn"),
  (120316, "opqrstuvwxyzABCDEFGHIJKLMNOPQRSTUVWXYZabcdefghijklmnopqrstuvwxyzABCDEFGHIJKLMNOPQRSTU"),
  (120401, "VWXYZabcdefghijklmnopqrstuvwxyzABCDEFGHIJKLMNOPQRSTUVWXYZabcdefghijklmnopqrstuvwxyzıȷ"),
  (120488, "ΑΒΓΔΕΖΗΘΙΚΛΜΝΞΟΠΡΘΣΤΥΦΧΨΩ"), (120514, "αβγδεζηθικλμνξοπρςστυφχψω"),
  (120540, "εθκφρπΑΒΓΔΕΖΗΘΙΚΛΜΝΞΟΠΡΘΣΤΥΦΧΨΩ"), (120572, "αβγδεζηθικλμνξοπρςστυφχψω"),
  (120598, "εθκφρπΑΒΓΔΕΖΗΘΙΚΛΜΝΞΟΠΡΘΣΤΥΦΧΨΩ"), (120630, "αβγδεζηθικλμνξοπρςστυφχψω"),
  (120656, "εθκφρπΑΒΓΔΕΖΗΘΙΚΛΜΝΞΟΠΡΘΣΤΥΦΧΨΩ"), (120688, "αβγδεζηθικλμνξοπρςστυφχψω"),
  (120714, "εθκφρπΑΒΓΔΕΖΗΘΙΚΛΜΝΞΟΠΡΘΣΤΥΦΧΨΩ"), (120746, "αβγδεζηθικλμνξοπρςστυφχψω"),
  (120772, "εθκφρπϜϝ"), (120782, "01234567890123456789012345678901234567890123456789"),
  (126464, "\u0627\u0628\u062c\u062f"),
  (126469, "\u0648\u0632\u062d\u0637\u064a\u0643\u0644\u0645\u0646\u0633\u0639\u0641\u0635\u0642"),
  (126483, "\u0631\u0634\u062a\u062b\u062e\u0630\u0636\u0638\u063a\u066e\u06ba\u06a1\u066f"),
  (126497, "\u0628\u062c"), (126500, "\u0647"), (126503, "\u062d"),
  (126505, "\u064a\u0643\u0644\u0645\u0646\u0633\u0639\u0641\u0635\u0642"),
  (126516, "\u0634\u062a\u062b\u062e"), (126521, "\u0636"), (126523, "\u063a"), (126530, "\u062c"),
  (126535, "\u062d"), (126537, "\u064a"), (126539, "\u0644"), (126541, "\u0646\u0633\u0639"),
  (126545, "\u0635\u0642"), (126548, "\u0634"), (126551, "\u062e"), (126553, "\u0636"),
  (126555, "\u063a"), (126557, "\u06ba"), (126559, "\u066f"), (126561, "\u0628\u062c"),
  (126564, "\u0647"), (126567, "\u062d\u0637\u064a\u0643"),
  (126572, "\u0645\u0646\u0633\u0639\u0641\u0635\u0642"), (126580, "\u0634\u062a\u062b\u062e"),
  (126585, "\u0636\u0638\u063a\u066e"), (126590, "\u06a1"),
  (126592, "\u0627\u0628\u062c\u062f\u0647\u0648\u0632\u062d\u0637\u064a"),
  (126603, "\u0644\u0645\u0646\u0633\u0639\u0641\u0635\u0642\u0631\u0634\u062a\u062b\u062e\u0630"),
  (126617, "\u0636\u0638\u063a"), (126625, "\u0628\u062c\u062f"),
  (126629, "\u0648\u0632\u062d\u0637\u064a"),
  (126635, "\u0644\u0645\u0646\u0633\u0639\u0641\u0635\u0642\u0631\u0634\u062a\u062b\u062e\u0630"),
  (126649, "\u0636\u0638\u063a"), (130032, "0123456789"),
  (194560, "丽丸乁𠄢你侮侻倂偺備僧像㒞𠘺免兔兤具𠔜㒹內再𠕋冗冤仌冬况𩇟凵刃㓟刻剆割剷㔕勇勉勤勺包匆北卉卑博即卽卿卿卿𠨬灰及叟𠭣叫叱吆咞吸呈周咢哶唐啓啣善善喙喫喳嗂圖嘆圗噑噴切壮城埴堍"),
  (194645, "型堲報墬𡓤売壷夆多夢奢𡚨𡛪姬娛娧姘婦㛮㛼嬈嬾嬾𡧈寃寘寧寳𡬘寿将当尢㞁屠屮峀岍𡷤嵃𡷦嵮嵫嵼巡巢㠯巽帨帽幩㡢𢆃㡼庰庳庶廊𪎒廾𢌱𢌱舁弢弢㣇𣊸𦇚形彫㣣徚忍志忹悁㤺㤜悔𢛔惇慈慌慎慌"),
  (194730, "慺憎憲憤憯懞懲懶成戛扝抱拔捐𢬌挽拼捨掃揤𢯱搢揅掩㨮摩摾撝摷㩬敏敬𣀊旣書晉㬙暑㬈㫤冒冕最暜肭䏙朗望朡杞杓𣏃㭉柺枅桒梅𣑭梎栟椔㮝楂榣槪檨𣚣櫛㰘次𣢧歔㱎歲殟殺殻𣪍𡴋𣫺汎𣲼沿泍汧"),
  (194815, "洖派海流浩浸涅𣴞洴港湮㴳滋滇𣻑淹潮𣽞𣾎濆瀹瀞瀛㶖灊災灷炭𠔥煅𤉣熜𤎫爨爵牐𤘈犀犕𤜵𤠔獺王㺬玥㺸㺸瑇瑜瑱璅瓊㼛甤𤰶甾𤲒異𢆟瘐𤾡𤾸𥁄㿼䀈直𥃳𥃲𥄙𥄳眞真真睊䀹瞋䁆䂖𥐝硎碌磌䃣𥘦祖"),
  (194900, "𥚚𥛅福秫䄯穀穊穏𥥼𥪧𥪧竮䈂𥮫篆築䈧𥲀糒䊠糨糣紀𥾆絣䌁緇縂繅䌴𦈨𦉇䍙𦋙罺𦌾羕翺者𦓚𦔣聠𦖨聰𣍟䏕育脃䐋脾媵𦞧𦞵𣎓𣎜舁舄辞䑫芑芋芝劳花芳芽苦𦬼若茝荣莭茣莽菧著荓菊菌菜𦰶𦵫𦳕䔫蓱"),
  (194985, "蓳蔖𧏊蕤𦼬䕝䕡𦾱𧃒䕫虐虜虧虩蚩蚈蜎蛢蝹蜨蝫螆䗗蟡蠁䗹衠衣𧙧裗裞䘵裺㒻𧢮𧥦䚾䛇誠諭變豕𧲨貫賁贛起𧼯𠠄跋趼跰𠣞軔輸𨗒𨗭邔郱鄑𨜮鄛鈸鋗鋘鉼鏹鐕𨯺開䦕閷𨵷䧦雃嶲霣𩅅𩈚䩮䩶韠𩐊䪲𩒖"),
  (195070, "頋頋頩𩖶飢䬳餩馧駂駾䯎𩬰鬒鱀鳽䳎䳭鵧𪃎䳸𪄅𪈎𪊑麻䵖黹黾鼅鼏鼖鼻𪘀")]

/-- Characters from a code point on that stand for several each. -/
def joinedRuns : List (Nat × List String) := [
  (306, ["IJ", "ij"]), (319, ["L·", "l·"]), (329, ["\u02bcn"]),
  (452, ["DZ\u030c", "Dz\u030c", "dz\u030c", "LJ", "Lj", "lj", "NJ", "Nj", "nj"]),
  (497, ["DZ", "Dz", "dz"]), (836, ["\u0308\u0301"]), (1415, ["եւ"]),
  (1653, ["\u0627\u0674", "\u0648\u0674", "\u06c7\u0674", "\u064a\u0674"]),
  (2392, ["क\u093c", "ख\u093c", "ग\u093c", "ज\u093c", "ड\u093c", "ढ\u093c", "फ\u093c", "य\u093c"]),
  (2524, ["ড\u09bc", "ঢ\u09bc"]), (2527, ["য\u09bc"]), (2611, ["ਲ\u0a3c"]), (2614, ["ਸ\u0a3c"]),
  (2649, ["ਖ\u0a3c", "ਗ\u0a3c", "ਜ\u0a3c"]), (2654, ["ਫ\u0a3c"]), (2908, ["ଡ\u0b3c", "ଢ\u0b3c"]),
  (3635, ["\u0e4dา"]), (3763, ["\u0ecdາ"]), (3804, ["ຫນ", "ຫມ"]), (3907, ["ག\u0fb7"]),
  (3917, ["ཌ\u0fb7"]), (3922, ["ད\u0fb7"]), (3927, ["བ\u0fb7"]), (3932, ["ཛ\u0fb7"]),
  (3945, ["ཀ\u0fb5"]), (3955, ["\u0f71\u0f72"]),
  (3957, ["\u0f71\u0f74", "\u0fb2\u0f80", "\u0fb2\u0f71\u0f80", "\u0fb3\u0f80"]),
  (3961, ["\u0fb3\u0f71\u0f80"]), (3969, ["\u0f71\u0f80"]), (3987, ["\u0f92\u0fb7"]),
  (3997, ["\u0f9c\u0fb7"]), (4002, ["\u0fa1\u0fb7"]), (4007, ["\u0fa6\u0fb7"]),
  (4012, ["\u0fab\u0fb7"]), (4025, ["\u0f90\u0fb5"]), (7834, ["a\u02be"]), (8049, ["α\u0301"]),
  (8051, ["ε\u0301"]), (8053, ["η\u0301"]), (8055, ["ι\u0301"]), (8057, ["ο\u0301"]),
  (8059, ["υ\u0301"]), (8061, ["ω\u0301"]), (8123, ["Α\u0301"]), (8137, ["Ε\u0301"]),
  (8139, ["Η\u0301"]), (8147, ["ι\u0308\u0301"]), (8155, ["Ι\u0301"]), (8163, ["υ\u0308\u0301"]),
  (8171, ["Υ\u0301"]), (8185, ["Ο\u0301"]), (8187, ["Ω\u0301"]), (8491, ["A\u030a"]),
  (8545, ["II", "III", "IV"]), (8549, ["VI", "VII", "VIII", "IX"]), (8554, ["XI", "XII"]),
  (8561, ["ii", "iii", "iv"]), (8565, ["vi", "vii", "viii", "ix"]), (8570, ["xi", "xii"]),
  (12447, ["より"]), (12543, ["コト"]), (64256, ["ff", "fi", "fl", "ffi", "ffl", "st", "st"]),
  (64275, ["մն", "մե", "մի", "վն", "մխ"]), (64285, ["\u05d9\u05b4"]), (64287, ["\u05f2\u05b7"]),
  (64298, ["\u05e9\u05c1", "\u05e9\u05c2", "\u05e9\u05bc\u05c1", "\u05e9\u05bc\u05c2"]),
  (64302, ["\u05d0\u05b7", "\u05d0\u05b8", "\u05d0\u05bc", "\u05d1\u05bc", "\u05d2\u05bc"]),
  (64307, ["\u05d3\u05bc", "\u05d4\u05bc", "\u05d5\u05bc", "\u05d6\u05bc"]),
  (64312, ["\u05d8\u05bc", "\u05d9\u05bc", "\u05da\u05bc", "\u05db\u05bc", "\u05dc\u05bc"]),
  (64318, ["\u05de\u05bc"]), (64320, ["\u05e0\u05bc", "\u05e1\u05bc"]),
  (64323, ["\u05e3\u05bc", "\u05e4\u05bc"]),
  (64326, ["\u05e6\u05bc", "\u05e7\u05bc", "\u05e8\u05bc", "\u05e9\u05bc", "\u05ea\u05bc"]),
  (64331, ["\u05d5\u05b9", "\u05d1\u05bf", "\u05db\u05bf", "\u05e4\u05bf", "\u05d0\u05dc"]),
  (64420, ["\u06d5\u0654", "\u06d5\u0654"]), (64432, ["\u06d2\u0654", "\u06d2\u0654"]),
  (64477, ["\u06c7\u0674"]),
  (64490, ["\u064a\u0654\u0627", "\u064a\u0654\u0627", "\u064a\u0654\u06d5", "\u064a\u0654\u06d5"]),
  (64494, ["\u064a\u0654\u0648", "\u064a\u0654\u0648", "\u064a\u0654\u06c7", "\u064a\u0654\u06c7"]),
  (64498, ["\u064a\u0654\u06c6", "\u064a\u0654\u06c6", "\u064a\u0654\u06c8", "\u064a\u0654\u06c8"]),
  (64502, ["\u064a\u0654\u06d0", "\u064a\u0654\u06d0", "\u064a\u0654\u06d0", "\u064a\u0654\u0649"]),
  (64506, ["\u064a\u0654\u0649", "\u064a\u0654\u0649"]),
  (64512, ["\u064a\u0654\u062c", "\u064a\u0654\u062d", "\u064a\u0654\u0645", "\u064a\u0654\u0649"]),
  (64516, ["\u064a\u0654\u064a", "\u0628\u062c", "\u0628\u062d", "\u0628\u062e", "\u0628\u0645"]),
  (64521, ["\u0628\u0649", "\u0628\u064a", "\u062a\u062c", "\u062a\u062d", "\u062a\u062e"]),
  (64526, ["\u062a\u0645", "\u062a\u0649", "\u062a\u064a", "\u062b\u062c", "\u062b\u0645"]),
  (64531, ["\u062b\u0649", "\u062b\u064a", "\u062c\u062d", "\u062c\u0645", "\u062d\u062c"]),
  (64536, ["\u062d\u0645", "\u062e\u062c", "\u062e\u062d", "\u062e\u0645", "\u0633\u062c"]),
  (64541, ["\u0633\u062d", "\u0633\u062e", "\u0633\u0645", "\u0635\u062d", "\u0635\u0645"]),
  (64546, ["\u0636\u062c", "\u0636\u062d", "\u0636\u062e", "\u0636\u0645", "\u0637\u062d"]),
  (64551, ["\u0637\u0645", "\u0638\u0645", "\u0639\u062c", "\u0639\u0645", "\u063a\u062c"]),
  (64556, ["\u063a\u0645", "\u0641\u062c", "\u0641\u062d", "\u0641\u062e", "\u0641\u0645"]),
  (64561, ["\u0641\u0649", "\u0641\u064a", "\u0642\u062d", "\u0642\u0645", "\u0642\u0649"]),
  (64566, ["\u0642\u064a", "\u0643\u0627", "\u0643\u062c", "\u0643\u062d", "\u0643\u062e"]),
  (64571, ["\u0643\u0644", "\u0643\u0645", "\u0643\u0649", "\u0643\u064a", "\u0644\u062c"]),
  (64576, ["\u0644\u062d", "\u0644\u062e", "\u0644\u0645", "\u0644\u0649", "\u0644\u064a"]),
  (64581, ["\u0645\u062c", "\u0645\u062d", "\u0645\u062e", "\u0645\u0645", "\u0645\u0649"]),
  (64586, ["\u0645\u064a", "\u0646\u062c", "\u0646\u062d", "\u0646\u062e", "\u0646\u0645"]),
  (64591, ["\u0646\u0649", "\u0646\u064a", "\u0647\u062c", "\u0647\u0645", "\u0647\u0649"]),
  (64596, ["\u0647\u064a", "\u064a\u062c", "\u064a\u062d", "\u064a\u062e", "\u064a\u0645"]),
  (64601, ["\u064a\u0649", "\u064a\u064a", "\u0630\u0670", "\u0631\u0670", "\u0649\u0670"]),
  (64612, ["\u064a\u0654\u0631", "\u064a\u0654\u0632", "\u064a\u0654\u0645", "\u064a\u0654\u0646"]),
  (64616, ["\u064a\u0654\u0649", "\u064a\u0654\u064a", "\u0628\u0631", "\u0628\u0632"]),
  (64620, ["\u0628\u0645", "\u0628\u0646", "\u0628\u0649", "\u0628\u064a", "\u062a\u0631"]),
  (64625, ["\u062a\u0632", "\u062a\u0645", "\u062a\u0646", "\u062a\u0649", "\u062a\u064a"]),
  (64630, ["\u062b\u0631", "\u062b\u0632", "\u062b\u0645", "\u062b\u0646", "\u062b\u0649"]),
  (64635, ["\u062b\u064a", "\u0641\u0649", "\u0641\u064a", "\u0642\u0649", "\u0642\u064a"]),
  (64640, ["\u0643\u0627", "\u0643\u0644", "\u0643\u0645", "\u0643\u0649", "\u0643\u064a"]),
  (64645, ["\u0644\u0645", "\u0644\u0649", "\u0644\u064a", "\u0645\u0627", "\u0645\u0645"]),
  (64650, ["\u0646\u0631", "\u0646\u0632", "\u0646\u0645", "\u0646\u0646", "\u0646\u0649"]),
  (64655, ["\u0646\u064a", "\u0649\u0670", "\u064a\u0631", "\u064a\u0632", "\u064a\u0645"]),
  (64660, ["\u064a\u0646", "\u064a\u0649", "\u064a\u064a", "\u064a\u0654\u062c"]),
  (64664, ["\u064a\u0654\u062d", "\u064a\u0654\u062e", "\u064a\u0654\u0645", "\u064a\u0654\u0647"]),
  (64668, ["\u0628\u062c", "\u0628\u062d", "\u0628\u062e", "\u0628\u0645", "\u0628\u0647"]),
  (64673, ["\u062a\u062c", "\u062a\u062d", "\u062a\u062e", "\u062a\u0645", "\u062a\u0647"]),
  (64678, ["\u062b\u0645", "\u062c\u062d", "\u062c\u0645", "\u062d\u062c", "\u062d\u0645"]),
  (64683, ["\u062e\u062c", "\u062e\u0645", "\u0633\u062c", "\u0633\u062d", "\u0633\u062e"]),
  (64688, ["\u0633\u0645", "\u0635\u062d", "\u0635\u062e", "\u0635\u0645", "\u0636\u062c"]),
  (64693, ["\u0636\u062d", "\u0636\u062e", "\u0636\u0645", "\u0637\u062d", "\u0638\u0645"]),
  (64698, ["\u0639\u062c", "\u0639\u0645", "\u063a\u062c", "\u063a\u0645", "\u0641\u062c"]),
  (64703, ["\u0641\u062d", "\u0641\u062e", "\u0641\u0645", "\u0642\u062d", "\u0642\u0645"]),
  (64708, ["\u0643\u062c", "\u0643\u062d", "\u0643\u062e", "\u0643\u0644", "\u0643\u0645"]),
  (64713, ["\u0644\u062c", "\u0644\u062d", "\u0644\u062e", "\u0644\u0645", "\u0644\u0647"]),
  (64718, ["\u0645\u062c", "\u0645\u062d", "\u0645\u062e", "\u0645\u0645", "\u0646\u062c"]),
  (64723, ["\u0646\u062d", "\u0646\u062e", "\u0646\u0645", "\u0646\u0647", "\u0647\u062c"]),
  (64728, ["\u0647\u0645", "\u0647\u0670", "\u064a\u062c", "\u064a\u062d", "\u064a\u062e"]),
  (64733, ["\u064a\u0645", "\u064a\u0647", "\u064a\u0654\u0645", "\u064a\u0654\u0647"]),
  (64737, ["\u0628\u0645", "\u0628\u0647", "\u062a\u0645", "\u062a\u0647", "\u062b\u0645"]),
  (64742, ["\u062b\u0647", "\u0633\u0645", "\u0633\u0647", "\u0634\u0645", "\u0634\u0647"]),
  (64747, ["\u0643\u0644", "\u0643\u0645", "\u0644\u0645", "\u0646\u0645", "\u0646\u0647"]),
  (64752, ["\u064a\u0645", "\u064a\u0647", "\u0640\u064e\u0651", "\u0640\u064f\u0651"]),
  (64756, ["\u0640\u0650\u0651", "\u0637\u0649", "\u0637\u064a", "\u0639\u0649", "\u0639\u064a"]),
  (64761, ["\u063a\u0649", "\u063a\u064a", "\u0633\u0649", "\u0633\u064a", "\u0634\u0649"]),
  (64766, ["\u0634\u064a", "\u062d\u0649", "\u062d\u064a", "\u062c\u0649", "\u062c\u064a"]),
  (64771, ["\u062e\u0649", "\u062e\u064a", "\u0635\u0649", "\u0635\u064a", "\u0636\u0649"]),
  (64776, ["\u0636\u064a", "\u0634\u062c", "\u0634\u062d", "\u0634\u062e", "\u0634\u0645"]),
  (64781, ["\u0634\u0631", "\u0633\u0631", "\u0635\u0631", "\u0636\u0631", "\u0637\u0649"]),
  (64786, ["\u0637\u064a", "\u0639\u0649", "\u0639\u064a", "\u063a\u0649", "\u063a\u064a"]),
  (64791, ["\u0633\u0649", "\u0633\u064a", "\u0634\u0649", "\u0634\u064a", "\u062d\u0649"]),
  (64796, ["\u062d\u064a", "\u062c\u0649", "\u062c\u064a", "\u062e\u0649", "\u062e\u064a"]),
  (64801, ["\u0635\u0649", "\u0635\u064a", "\u0636\u0649", "\u0636\u064a", "\u0634\u062c"]),
  (64806, ["\u0634\u062d", "\u0634\u062e", "\u0634\u0645", "\u0634\u0631", "\u0633\u0631"]),
  (64811, ["\u0635\u0631", "\u0636\u0631", "\u0634\u062c", "\u0634\u062d", "\u0634\u062e"]),
  (64816, ["\u0634\u0645", "\u0633\u0647", "\u0634\u0647", "\u0637\u0645", "\u0633\u062c"]),
  (64821, ["\u0633\u062d", "\u0633\u062e", "\u0634\u062c", "\u0634\u062d", "\u0634\u062e"]),
  (64826, ["\u0637\u0645", "\u0638\u0645", "\u0627\u064b", "\u0627\u064b"]),
  (64848, ["\u062a\u062c\u0645", "\u062a\u062d\u062c", "\u062a\u062d\u062c", "\u062a\u062d\u0645"]),
  (64852, ["\u062a\u062e\u0645", "\u062a\u0645\u062c", "\u062a\u0645\u062d", "\u062a\u0645\u062e"]),
  (64856, ["\u062c\u0645\u062d", "\u062c\u0645\u062d", "\u062d\u0645\u064a", "\u062d\u0645\u0649"]),
  (64860, ["\u0633\u062d\u062c", "\u0633\u062c\u062d", "\u0633\u062c\u0649", "\u0633\u0645\u062d"]),
  (64864, ["\u0633\u0645\u062d", "\u0633\u0645\u062c", "\u0633\u0645\u0645", "\u0633\u0645\u0645"]),
  (64868, ["\u0635\u062d\u062d", "\u0635\u062d\u062d", "\u0635\u0645\u0645", "\u0634\u062d\u0645"]),
  (64872, ["\u0634\u062d\u0645", "\u0634\u062c\u064a", "\u0634\u0645\u062e", "\u0634\u0645\u062e"]),
  (64876, ["\u0634\u0645\u0645", "\u0634\u0645\u0645", "\u0636\u062d\u0649", "\u0636\u062e\u0645"]),
  (64880, ["\u0636\u062e\u0645", "\u0637\u0645\u062d", "\u0637\u0645\u062d", "\u0637\u0645\u0645"]),
  (64884, ["\u0637\u0645\u064a", "\u0639\u062c\u0645", "\u0639\u0645\u0645", "\u0639\u0645\u0645"]),
  (64888, ["\u0639\u0645\u0649", "\u063a\u0645\u0645", "\u063a\u0645\u064a", "\u063a\u0645\u0649"]),
  (64892, ["\u0641\u062e\u0645", "\u0641\u062e\u0645", "\u0642\u0645\u062d", "\u0642\u0645\u0645"]),
  (64896, ["\u0644\u062d\u0645", "\u0644\u062d\u064a", "\u0644\u062d\u0649", "\u0644\u062c\u062c"]),
  (64900, ["\u0644\u062c\u062c", "\u0644\u062e\u0645", "\u0644\u062e\u0645", "\u0644\u0645\u062d"]),
  (64904, ["\u0644\u0645\u062d", "\u0645\u062d\u062c", "\u0645\u062d\u0645", "\u0645\u062d\u064a"]),
  (64908, ["\u0645\u062c\u062d", "\u0645\u062c\u0645", "\u0645\u062e\u062c", "\u0645\u062e\u0645"]),
  (64914, ["\u0645\u062c\u062e", "\u0647\u0645\u062c", "\u0647\u0645\u0645", "\u0646\u062d\u0645"]),
  (64918, ["\u0646\u062d\u0649", "\u0646\u062c\u0645", "\u0646\u062c\u0645", "\u0646\u062c\u0649"]),
  (64922, ["\u0646\u0645\u064a", "\u0646\u0645\u0649", "\u064a\u0645\u0645", "\u064a\u0645\u0645"]),
  (64926, ["\u0628\u062e\u064a", "\u062a\u062c\u064a", "\u062a\u062c\u0649", "\u062a\u062e\u064a"]),
  (64930, ["\u062a\u062e\u0649", "\u062a\u0645\u064a", "\u062a\u0645\u0649", "\u062c\u0645\u064a"]),
  (64934, ["\u062c\u062d\u0649", "\u062c\u0645\u0649", "\u0633\u062e\u0649", "\u0635\u062d\u064a"]),
  (64938, ["\u0634\u062d\u064a", "\u0636\u062d\u064a", "\u0644\u062c\u064a", "\u0644\u0645\u064a"]),
  (64942, ["\u064a\u062d\u064a", "\u064a\u062c\u064a", "\u064a\u0645\u064a", "\u0645\u0645\u064a"]),
  (64946, ["\u0642\u0645\u064a", "\u0646\u062d\u064a", "\u0642\u0645\u062d", "\u0644\u062d\u0645"]),
  (64950, ["\u0639\u0645\u064a", "\u0643\u0645\u064a", "\u0646\u062c\u062d", "\u0645\u062e\u064a"]),
  (64954, ["\u0644\u062c\u0645", "\u0643\u0645\u0645", "\u0644\u062c\u0645", "\u0646\u062c\u062d"]),
  (64958, ["\u062c\u062d\u064a", "\u062d\u062c\u064a", "\u0645\u062c\u064a", "\u0641\u0645\u064a"]),
  (64962, ["\u0628\u062d\u064a", "\u0643\u0645\u0645", "\u0639\u062c\u0645", "\u0635\u0645\u0645"]),
  (64966, ["\u0633\u062e\u064a", "\u0646\u062c\u064a"]),
  (65008, ["\u0635\u0644\u06d2", "\u0642\u0644\u06d2", "\u0627\u0644\u0644\u0647"]),
  (65011, ["\u0627\u0643\u0628\u0631", "\u0645\u062d\u0645\u062f", "\u0635\u0644\u0639\u0645"]),
  (65014, ["\u0631\u0633\u0648\u0644", "\u0639\u0644\u064a\u0647", "\u0648\u0633\u0644\u0645"]),
  (65017, ["\u0635\u0644\u0649"]), (65137, ["\u0640\u064b"]), (65143, ["\u0640\u064e"]),
  (65145, ["\u0640\u064f"]), (65147, ["\u0640\u0650"]), (65149, ["\u0640\u0651"]),
  (65151, ["\u0640\u0652"]),
  (65153, ["\u0627\u0653", "\u0627\u0653", "\u0627\u0654", "\u0627\u0654", "\u0648\u0654"]),
  (65158, ["\u0648\u0654", "\u0627\u0655", "\u0627\u0655", "\u064a\u0654", "\u064a\u0654"]),
  (65163, ["\u064a\u0654", "\u064a\u0654"]),
  (65269, ["\u0644\u0627\u0653", "\u0644\u0627\u0653", "\u0644\u0627\u0654", "\u0644\u0627\u0654"]),
  (65273, ["\u0644\u0627\u0655", "\u0644\u0627\u0655", "\u0644\u0627", "\u0644\u0627"])]

/-- Classes of marks, with the marks of each; marks of a lesser class stand first. -/
def markClasses : List (Nat × Ranges) := [
  (1, [(820, 824), (7380, 7380), (7394, 7400), (8402, 8403), (8408, 8410), (8421, 8422),
  (8426, 8427), (68153, 68153), (92912, 92916), (113822, 113822), (119143, 119145)]),
  (6, [(94192, 94193)]), (7, [(2364, 2364), (2492, 2492), (2620, 2620), (2748, 2748), (2876, 2876),
  (3132, 3132), (3260, 3260), (4151, 4151), (6964, 6964), (7142, 7142), (7223, 7223),
  (43443, 43443), (69818, 69818), (70003, 70003), (70090, 70090), (70198, 70198), (70377, 70377),
  (70459, 70460), (70726, 70726), (70851, 70851), (71104, 71104), (71351, 71351), (71738, 71738),
  (72003, 72003), (73026, 73026), (125258, 125258)]), (8, [(12441, 12442)]), (9, [(2381, 2381),
  (2509, 2509), (2637, 2637), (2765, 2765), (2893, 2893), (3021, 3021), (3149, 3149), (3277, 3277),
  (3387, 3388), (3405, 3405), (3530, 3530), (3642, 3642), (3770, 3770), (3972, 3972), (4153, 4154),
  (5908, 5909), (5940, 5940), (6098, 6098), (6752, 6752), (6980, 6980), (7082, 7083), (7154, 7155),
  (11647, 11647), (43014, 43014), (43052, 43052), (43204, 43204), (43347, 43347), (43456, 43456),
  (43766, 43766), (44013, 44013), (68159, 68159), (69702, 69702), (69744, 69744), (69759, 69759),
  (69817, 69817), (69939, 69940), (70080, 70080), (70197, 70197), (70378, 70378), (70477, 70477),
  (70722, 70722), (70850, 70850), (71103, 71103), (71231, 71231), (71350, 71350), (71467, 71467),
  (71737, 71737), (71997, 71998), (72160, 72160), (72244, 72244), (72263, 72263), (72345, 72345),
  (72767, 72767), (73028, 73029), (73111, 73111)]), (10, [(1456, 1456)]), (11, [(1457, 1457)]),
  (12, [(1458, 1458)]), (13, [(1459, 1459)]), (14, [(1460, 1460)]), (15, [(1461, 1461)]),
  (16, [(1462, 1462)]), (17, [(1463, 1463)]), (18, [(1464, 1464), (1479, 1479)]),
  (19, [(1465, 1466)]), (20, [(1467, 1467)]), (21, [(1468, 1468)]), (22, [(1469, 1469)]),
  (23, [(1471, 1471)]), (24, [(1473, 1473)]), (25, [(1474, 1474)]), (26, [(64286, 64286)]),
  (27, [(1611, 1611), (2288, 2288)]), (28, [(1612, 1612), (2289, 2289)]), (29, [(1613, 1613),
  (2290, 2290)]), (30, [(1560, 1560), (1614, 1614)]), (31, [(1561, 1561), (1615, 1615)]),
  (32, [(1562, 1562), (1616, 1616)]), (33, [(1617, 1617)]), (34, [(1618, 1618)]),
  (35, [(1648, 1648)]), (36, [(1809, 1809)]), (84, [(3157, 3157)]), (91, [(3158, 3158)]),
  (103, [(3640, 3641)]), (107, [(3656, 3659)]), (118, [(3768, 3769)]), (122, [(3784, 3787)]),
  (129, [(3953, 3953)]), (130, [(3954, 3954), (3962, 3965), (3968, 3968)]), (132, [(3956, 3956)]),
  (202, [(801, 802), (807, 808), (7632, 7632)]), (214, [(7630, 7630)]), (216, [(795, 795),
  (3897, 3897), (119141, 119142), (119150, 119154)]), (218, [(7674, 7674), (12330, 12330)]),
  (220, [(790, 793), (796, 800), (803, 806), (809, 819), (825, 828), (839, 841), (845, 846),
  (851, 854), (857, 858), (1425, 1425), (1430, 1430), (1435, 1435), (1442, 1447), (1450, 1450),
  (1477, 1477), (1621, 1622), (1628, 1628), (1631, 1631), (1763, 1763), (1770, 1770), (1773, 1773),
  (1841, 1841), (1844, 1844), (1847, 1849), (1851, 1852), (1854, 1854), (1858, 1858), (1860, 1860),
  (1862, 1862), (1864, 1864), (2034, 2034), (2045, 2045), (2137, 2139), (2201, 2203), (2255, 2259),
  (2275, 2275), (2278, 2278), (2281, 2281), (2285, 2287), (2294, 2294), (2297, 2298), (2386, 2386),
  (3864, 3865), (3893, 3893), (3895, 3895), (4038, 4038), (4237, 4237), (6459, 6459), (6680, 6680),
  (6783, 6783), (6837, 6842), (6845, 6845), (6847, 6848), (6851, 6852), (6858, 6858), (7020, 7020),
  (7381, 7385), (7388, 7391), (7405, 7405), (7618, 7618), (7626, 7626), (7631, 7631), (7673, 7673),
  (7677, 7677), (7679, 7679), (8424, 8424), (8428, 8431), (43307, 43309), (43700, 43700),
  (65063, 65069), (66045, 66045), (66272, 66272), (68109, 68109), (68154, 68154), (68326, 68326),
  (69446, 69447), (69451, 69451), (69453, 69456), (69507, 69507), (69509, 69509), (119163, 119170),
  (119178, 119179), (125136, 125142)]), (222, [(1434, 1434), (1453, 1453), (6457, 6457),
  (12333, 12333)]), (224, [(12334, 12335)]), (226, [(119149, 119149)]), (228, [(1454, 1454),
  (6313, 6313), (7671, 7672), (12331, 12331)]), (230, [(768, 788), (829, 836), (838, 838),
  (842, 844), (848, 850), (855, 855), (859, 859), (867, 879), (1155, 1159), (1426, 1429),
  (1431, 1433), (1436, 1441), (1448, 1449), (1451, 1452), (1455, 1455), (1476, 1476), (1552, 1559),
  (1619, 1620), (1623, 1627), (1629, 1630), (1750, 1756), (1759, 1762), (1764, 1764), (1767, 1768),
  (1771, 1772), (1840, 1840), (1842, 1843), (1845, 1846), (1850, 1850), (1853, 1853), (1855, 1857),
  (1859, 1859), (1861, 1861), (1863, 1863), (1865, 1866), (2027, 2033), (2035, 2035), (2070, 2073),
  (2075, 2083), (2085, 2087), (2089, 2093), (2200, 2200), (2204, 2207), (2250, 2254), (2260, 2273),
  (2276, 2277), (2279, 2280), (2282, 2284), (2291, 2293), (2295, 2296), (2299, 2303), (2385, 2385),
  (2387, 2388), (2558, 2558), (3970, 3971), (3974, 3975), (4957, 4959), (6109, 6109), (6458, 6458),
  (6679, 6679), (6773, 6780), (6832, 6836), (6843, 6844), (6849, 6850), (6853, 6857), (6859, 6862),
  (7019, 7019), (7021, 7027), (7376, 7378), (7386, 7387), (7392, 7392), (7412, 7412), (7416, 7417),
  (7616, 7617), (7619, 7625), (7627, 7628), (7633, 7669), (7675, 7675), (7678, 7678), (8400, 8401),
  (8404, 8407), (8411, 8412), (8417, 8417), (8423, 8423), (8425, 8425), (8432, 8432),
  (11503, 11505), (11744, 11775), (42607, 42607), (42612, 42621), (42654, 42655), (42736, 42737),
  (43232, 43249), (43696, 43696), (43698, 43699), (43703, 43704), (43710, 43711), (43713, 43713),
  (65056, 65062), (65070, 65071), (66422, 66426), (68111, 68111), (68152, 68152), (68325, 68325),
  (68900, 68903), (69291, 69292), (69448, 69450), (69452, 69452), (69506, 69506), (69508, 69508),
  (69888, 69890), (70502, 70508), (70512, 70516), (70750, 70750), (92976, 92982), (119173, 119177),
  (119210, 119213), (119362, 119364), (122880, 122886), (122888, 122904), (122907, 122913),
  (122915, 122916), (122918, 122922), (123184, 123190), (123566, 123566), (123628, 123631),
  (125252, 125257)]), (232, [(789, 789), (794, 794), (856, 856), (7670, 7670), (12332, 12332)]),
  (233, [(860, 860), (863, 863), (866, 866), (7676, 7676)]), (234, [(861, 862), (864, 865),
  (7629, 7629)]), (240, [(837, 837)])]

/-- Characters that names contain beside word characters: marks, and what joins words. -/
def nameMarkRanges : Ranges := [
  (183, 183), (768, 879), (903, 903), (1155, 1159), (1425, 1469), (1471, 1471), (1473, 1474),
  (1476, 1477), (1479, 1479), (1552, 1562), (1611, 1631), (1648, 1648), (1750, 1756), (1759, 1764),
  (1767, 1768), (1770, 1773), (1809, 1809), (1840, 1866), (1958, 1968), (2027, 2035), (2045, 2045),
  (2070, 2073), (2075, 2083), (2085, 2087), (2089, 2093), (2137, 2139), (2200, 2207), (2250, 2273),
  (2275, 2307), (2362, 2364), (2366, 2383), (2385, 2391), (2402, 2403), (2433, 2435), (2492, 2492),
  (2494, 2500), (2503, 2504), (2507, 2509), (2519, 2519), (2530, 2531), (2558, 2558), (2561, 2563),
  (2620, 2620), (2622, 2626), (2631, 2632), (2635, 2637), (2641, 2641), (2672, 2673), (2677, 2677),
  (2689, 2691), (2748, 2748), (2750, 2757), (2759, 2761), (2763, 2765), (2786, 2787), (2810, 2815),
  (2817, 2819), (2876, 2876), (2878, 2884), (2887, 2888), (2891, 2893), (2901, 2903), (2914, 2915),
  (2946, 2946), (3006, 3010), (3014, 3016), (3018, 3021), (3031, 3031), (3072, 3076), (3132, 3132),
  (3134, 3140), (3142, 3144), (3146, 3149), (3157, 3158), (3170, 3171), (3201, 3203), (3260, 3260),
  (3262, 3268), (3270, 3272), (3274, 3277), (3285, 3286), (3298, 3299), (3328, 3331), (3387, 3388),
  (3390, 3396), (3398, 3400), (3402, 3405), (3415, 3415), (3426, 3427), (3457, 3459), (3530, 3530),
  (3535, 3540), (3542, 3542), (3544, 3551), (3570, 3571), (3633, 3633), (3636, 3642), (3655, 3662),
  (3761, 3761), (3764, 3772), (3784, 3789), (3864, 3865), (3893, 3893), (3895, 3895), (3897, 3897),
  (3902, 3903), (3953, 3972), (3974, 3975), (3981, 3991), (3993, 4028), (4038, 4038), (4139, 4158),
  (4182, 4185), (4190, 4192), (4194, 4196), (4199, 4205), (4209, 4212), (4226, 4237), (4239, 4239),
  (4250, 4253), (4957, 4959), (5906, 5909), (5938, 5940), (5970, 5971), (6002, 6003), (6068, 6099),
  (6109, 6109), (6155, 6157), (6159, 6159), (6277, 6278), (6313, 6313), (6432, 6443), (6448, 6459),
  (6679, 6683), (6741, 6750), (6752, 6780), (6783, 6783), (6832, 6845), (6847, 6862), (6912, 6916),
  (6964, 6980), (7019, 7027), (7040, 7042), (7073, 7085), (7142, 7155), (7204, 7223), (7376, 7378),
  (7380, 7400), (7405, 7405), (7412, 7412), (7415, 7417), (7616, 7679), (8255, 8256), (8276, 8276),
  (8400, 8412), (8417, 8417), (8421, 8432), (8472, 8472), (8494, 8494), (11503, 11505),
  (11647, 11647), (11744, 11775), (12330, 12335), (12441, 12442), (42607, 42607), (42612, 42621),
  (42654, 42655), (42736, 42737), (43010, 43010), (43014, 43014), (43019, 43019), (43043, 43047),
  (43052, 43052), (43136, 43137), (43188, 43205), (43232, 43249), (43263, 43263), (43302, 43309),
  (43335, 43347), (43392, 43395), (43443, 43456), (43493, 43493), (43561, 43574), (43587, 43587),
  (43596, 43597), (43643, 43645), (43696, 43696), (43698, 43700), (43703, 43704), (43710, 43711),
  (43713, 43713), (43755, 43759), (43765, 43766), (44003, 44010), (44012, 44013), (64286, 64286),
  (65024, 65039), (65056, 65071), (65075, 65076), (65101, 65103), (65343, 65343), (66045, 66045),
  (66272, 66272), (66422, 66426), (68097, 68099), (68101, 68102), (68108, 68111), (68152, 68154),
  (68159, 68159), (68325, 68326), (68900, 68903), (69291, 69292), (69446, 69456), (69506, 69509),
  (69632, 69634), (69688, 69702), (69744, 69744), (69747, 69748), (69759, 69762), (69808, 69818),
  (69826, 69826), (69888, 69890), (69927, 69940), (69957, 69958), (70003, 70003), (70016, 70018),
  (70067, 70080), (70089, 70092), (70094, 70095), (70188, 70199), (70206, 70206), (70367, 70378),
  (70400, 70403), (70459, 70460), (70462, 70468), (70471, 70472), (70475, 70477), (70487, 70487),
  (70498, 70499), (70502, 70508), (70512, 70516), (70709, 70726), (70750, 70750), (70832, 70851),
  (71087, 71093), (71096, 71104), (71132, 71133), (71216, 71232), (71339, 71351), (71453, 71467),
  (71724, 71738), (71984, 71989), (71991, 71992), (71995, 71998), (72000, 72000), (72002, 72003),
  (72145, 72151), (72154, 72160), (72164, 72164), (72193, 72202), (72243, 72249), (72251, 72254),
  (72263, 72263), (72273, 72283), (72330, 72345), (72751, 72758), (72760, 72767), (72850, 72871),
  (72873, 72886), (73009, 73014), (73018, 73018), (73020, 73021), (73023, 73029), (73031, 73031),
  (73098, 73102), (73104, 73105), (73107, 73111), (73459, 73462), (92912, 92916), (92976, 92982),
  (94031, 94031), (94033, 94087), (94095, 94098), (94180, 94180), (94192, 94193), (113821, 113822),
  (118528, 118573), (118576, 118598), (119141, 119145), (119149, 119154), (119163, 119170),
  (119173, 119179), (119210, 119213), (119362, 119364), (121344, 121398), (121403, 121452),
  (121461, 121461), (121476, 121476), (121499, 121503), (121505, 121519), (122880, 122886),
  (122888, 122904), (122907, 122913), (122915, 122916), (122918, 122922), (123184, 123190),
  (123566, 123566), (123628, 123631), (125136, 125142), (125252, 125258), (917760, 917999)]

end SheetExport.Text
