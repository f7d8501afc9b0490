/-!
# Normal forms of characters

The part of the Unicode 14 character database that the normal form of identifiers needs: what the
characters of identifiers are made of, and the order of the marks that follow a letter.
-/

namespace ApiAccord.Text

/-- Characters that stand for one other character.  Each text lists what the characters from its
number on stand for. -/
def lookalikeBlocks : List (Nat × String) := [
  (0xaa, "a"), (0xb5, "\u03bc"), (0xba, "o"), (0x17f, "s"),
  (0x2b0, "h\u0266jr\u0279\u027b\u0281wy"), (0x2e0, "\u0263lsx\u0295"), (0x340, "\u0300\u0301"),
  (0x343, "\u0313"), (0x374, "\u02b9"), (0x387, "\u00b7"), (0x3d0, "\u03b2\u03b8\u03a5"),
  (0x3d5, "\u03c6\u03c0"), (0x3f0, "\u03ba\u03c1\u03c2"), (0x3f4, "\u0398\u03b5"),
  (0x3f9, "\u03a3"), (0x10fc, "\u10dc"), (0x1d2c, "A\u00c6B"), (0x1d30, "DE\u018eGHIJKLMN"),
  (0x1d3c, "O\u0222PRTUWa\u0250\u0251\u1d02bde\u0259\u025b\u025cg"),
  (0x1d4f, "km\u014bo\u0254\u1d16\u1d17ptu\u1d1d\u026fv\u1d25\u03b2\u03b3\u03b4\u03c6"),
  (0x1d61, "\u03c7iruv\u03b2\u03b3\u03c1\u03c6\u03c7"), (0x1d78, "\u043d"),
  (0x1d9b, "\u0252c\u0255\u00f0\u025cf\u025f\u0261\u0265\u0268\u0269\u026a\u1d7b\u029d"),
  (0x1da9, "\u026d\u1d85\u029f\u0271\u0270\u0272\u0273\u0274\u0275\u0278\u0282\u0283\u01ab"),
  (0x1db6, "\u0289\u028a\u1d1c\u028b\u028cz\u0290\u0291\u0292\u03b8"), (0x1fbe, "\u03b9"),
  (0x2071, "i"), (0x207f, "n"), (0x2090, "aeox\u0259hklmnpst"), (0x2102, "C"), (0x2107, "\u0190"),
  (0x210a, "gHHHh\u0127IILl"), (0x2115, "N"), (0x2119, "PQRRR"), (0x2124, "Z"), (0x2126, "\u03a9"),
  (0x2128, "Z"), (0x212a, "K"), (0x212c, "BC"), (0x212f, "eEF"),
  (0x2133, "Mo\u05d0\u05d1\u05d2\u05d3i"), (0x213c, "\u03c0\u03b3\u0393\u03a0"), (0x2145, "Ddeij"),
  (0x2160, "I"), (0x2164, "V"), (0x2169, "X"), (0x216c, "LCDMi"), (0x2174, "v"), (0x2179, "x"),
  (0x217c, "lcdm"), (0x2c7c, "jV"), (0x2d6f, "\u2d61"), (0x3038, "十卄卅"),
  (0x3131, "\u1100\u1101\u11aa\u1102\u11ac\u11ad\u1103\u1104\u1105\u11b0\u11b1\u11b2\u11b3"),
  (0x313e, "\u11b4\u11b5\u111a\u1106\u1107\u1108\u1121\u1109\u110a\u110b\u110c\u110d\u110e"),
  (0x314b, "\u110f\u1110\u1111\u1112\u1161\u1162\u1163\u1164\u1165\u1166\u1167\u1168\u1169"),
  (0x3158, "\u116a\u116b\u116c\u116d\u116e\u116f\u1170\u1171\u1172\u1173\u1174\u1175\u1160"),
  (0x3165, "\u1114\u1115\u11c7\u11c8\u11cc\u11ce\u11d3\u11d7\u11d9\u111c\u11dd\u11df\u111d"),
  (0x3172, "\u111e\u1120\u1122\u1123\u1127\u1129\u112b\u112c\u112d\u112e\u112f\u1132\u1136"),
  (0x317f, "\u1140\u1147\u114c\u11f1\u11f2\u1157\u1158\u1159\u1184\u1185\u1188\u1191\u1192"),
  (0x318c, "\u1194\u119e\u11a1"), (0xa69c, "\u044a\u044c"), (0xa770, "\ua76f"), (0xa7f2, "CFQ"),
  (0xa7f8, "\u0126\u0153"), (0xab5c, "\ua727\uab37\u026b\uab52"), (0xab69, "\u028d"),
  (0xf900, "豈更車賈滑串句龜龜契金喇奈懶癩羅蘿螺裸邏樂洛烙珞落酪駱亂卵欄爛蘭鸞嵐濫藍襤拉臘"),
  (0xf927, "蠟廊朗浪狼郎來冷勞擄櫓爐盧老蘆虜路露魯鷺碌祿綠菉錄鹿論壟弄籠聾牢磊賂雷壘屢樓淚"),
  (0xf94e, "漏累縷陋勒肋凜凌稜綾菱陵讀拏樂諾丹寧怒率異北磻便復不泌數索參塞省葉說殺辰沈拾若"),
  (0xf975, "掠略亮兩凉梁糧良諒量勵呂女廬旅濾礪閭驪麗黎力曆歷轢年憐戀撚漣煉璉秊練聯輦蓮連鍊"),
  (0xf99c, "列劣咽烈裂說廉念捻殮簾獵令囹寧嶺怜玲瑩羚聆鈴零靈領例禮醴隸惡了僚寮尿料樂燎療蓼"),
  (0xf9c3, "遼龍暈阮劉杻柳流溜琉留硫紐類六戮陸倫崙淪輪律慄栗率隆利吏履易李梨泥理痢罹裏裡里"),
  (0xf9ea, "離匿溺吝燐璘藺隣鱗麟林淋臨立笠粒狀炙識什茶刺切度拓糖宅洞暴輻行降見廓兀嗀"),
  (0xfa10, "塚"), (0xfa12, "晴"), (0xfa15, "凞猪益礼神祥福靖精羽"), (0xfa20, "蘒"), (0xfa22, "諸"),
  (0xfa25, "逸都"),
  (0xfa2a, "飯飼館鶴郞隷侮僧免勉勤卑喝嘆器塀墨層屮悔慨憎懲敏既暑梅海渚漢煮爫琢碑社祉祈祐祖"),
  (0xfa51, "祝禍禎穀突節練縉繁署者臭艹艹著褐視謁謹賓贈辶逸難響頻恵𤋮舘"),
  (0xfa70, "並况全侀充冀勇勺喝啕喙嗢塚墳奄奔婢嬨廒廙彩徭惘慎愈憎慠懲戴揄搜摒敖晴朗望杖歹殺"),
  (0xfa97, "流滛滋漢瀞煮瞧爵犯猪瑱甆画瘝瘟益盛直睊着磌窱節类絛練缾者荒華蝹襁覆視調諸請謁諾"),
  (0xfabe, "諭謹變贈輸遲醙鉶陼難靖韛響頋頻鬒龜𢡊𢡄𣏕㮝䀘䀹𥉉𥳐𧻓齃龎"),
  (0xfb20, "\u05e2\u05d0\u05d3\u05d4\u05db\u05dc\u05dd\u05e8\u05ea"),
  (0xfb50, "\u0671\u0671\u067b\u067b\u067b\u067b\u067e\u067e\u067e\u067e\u0680\u0680\u0680"),
  (0xfb5d, "\u0680\u067a\u067a\u067a\u067a\u067f\u067f\u067f\u067f\u0679\u0679\u0679\u0679"),
  (0xfb6a, "\u06a4\u06a4\u06a4\u06a4\u06a6\u06a6\u06a6\u06a6\u0684\u0684\u0684\u0684\u0683"),
  (0xfb77, "\u0683\u0683\u0683\u0686\u0686\u0686\u0686\u0687\u0687\u0687\u0687\u068d\u068d"),
  (0xfb84, "\u068c\u068c\u068e\u068e\u0688\u0688\u0698\u0698\u0691\u0691\u06a9\u06a9\u06a9"),
  (0xfb91, "\u06a9\u06af\u06af\u06af\u06af\u06b3\u06b3\u06b3\u06b3\u06b1\u06b1\u06b1\u06b1"),
  (0xfb9e, "\u06ba\u06ba\u06bb\u06bb\u06bb\u06bb"),
  (0xfba6, "\u06c1\u06c1\u06c1\u06c1\u06be\u06be\u06be\u06be\u06d2\u06d2"),
  (0xfbd3, "\u06ad\u06ad\u06ad\u06ad\u06c7\u06c7\u06c6\u06c6\u06c8\u06c8"),
  (0xfbde, "\u06cb\u06cb\u06c5\u06c5\u06c9\u06c9\u06d0\u06d0\u06d0\u06d0\u0649\u0649"),
  (0xfbfc, "\u06cc\u06cc\u06cc\u06cc"), (0xfe33, "__"), (0xfe4d, "___"), (0xfe80, "\u0621"),
  (0xfe8d, "\u0627\u0627\u0628\u0628\u0628\u0628\u0629\u0629\u062a\u062a\u062a\u062a\u062b"),
  (0xfe9a, "\u062b\u062b\u062b\u062c\u062c\u062c\u062c\u062d\u062d\u062d\u062d\u062e\u062e"),
  (0xfea7, "\u062e\u062e\u062f\u062f\u0630\u0630\u0631\u0631\u0632\u0632\u0633\u0633\u0633"),
  (0xfeb4, "\u0633\u0634\u0634\u0634\u0634\u0635\u0635\u0635\u0635\u0636\u0636\u0636\u0636"),
  (0xfec1, "\u0637\u0637\u0637\u0637\u0638\u0638\u0638\u0638\u0639\u0639\u0639\u0639\u063a"),
  (0xfece, "\u063a\u063a\u063a\u0641\u0641\u0641\u0641\u0642\u0642\u0642\u0642\u0643\u0643"),
  (0xfedb, "\u0643\u0643\u0644\u0644\u0644\u0644\u0645\u0645\u0645\u0645\u0646\u0646\u0646"),
  (0xfee8, "\u0646\u0647\u0647\u0647\u0647\u0648\u0648\u0649\u0649\u064a\u064a\u064a\u064a"),
  (0xff10, "0123456789"), (0xff21, "ABCDEFGHIJKLMNOPQRSTUVWXYZ"), (0xff3f, "_"),
  (0xff41, "abcdefghijklmnopqrstuvwxyz"),
  (0xff66, "\u30f2\u30a1\u30a3\u30a5\u30a7\u30a9\u30e3\u30e5\u30e7\u30c3\u30fc\u30a2\u30a4"),
  (0xff73, "\u30a6\u30a8\u30aa\u30ab\u30ad\u30af\u30b1\u30b3\u30b5\u30b7\u30b9\u30bb\u30bd"),
  (0xff80, "\u30bf\u30c1\u30c4\u30c6\u30c8\u30ca\u30cb\u30cc\u30cd\u30ce\u30cf\u30d2\u30d5"),
  (0xff8d, "\u30d8\u30db\u30de\u30df\u30e0\u30e1\u30e2\u30e4\u30e6\u30e8\u30e9\u30ea\u30eb"),
  (0xff9a, "\u30ec\u30ed\u30ef\u30f3\u3099\u309a\u1160\u1100\u1101\u11aa\u1102\u11ac\u11ad"),
  (0xffa7, "\u1103\u1104\u1105\u11b0\u11b1\u11b2\u11b3\u11b4\u11b5\u111a\u1106\u1107\u1108"),
  (0xffb4, "\u1121\u1109\u110a\u110b\u110c\u110d\u110e\u110f\u1110\u1111\u1112"),
  (0xffc2, "\u1161\u1162\u1163\u1164\u1165\u1166"),
  (0xffca, "\u1167\u1168\u1169\u116a\u116b\u116c"),
  (0xffd2, "\u116d\u116e\u116f\u1170\u1171\u1172"), (0xffda, "\u1173\u1174\u1175"),
  (0x10781, "\u02d0\u02d1\u00e6\u0299\u0253"),
  (0x10787, "\u02a3\uab66\u02a5\u02a4\u0256\u0257\u1d91\u0258\u025e\u02a9\u0264\u0262\u0260"),
  (0x10794, "\u029b\u0127\u029c\u0267\u0284\u02aa\u02ab\u026c𝼄\ua78e\u026e𝼅\u028e𝼆\u00f8"),
  (0x107a3, "\u0276\u0277q\u027a𝼈\u027d\u027e\u0280\u02a8\u02a6\uab67\u02a7\u0288\u2c71"),
  (0x107b2, "\u028f\u02a1\u02a2\u0298\u01c0\u01c1\u01c2𝼊𝼞"),
  (0x1d400, "ABCDEFGHIJKLMNOPQRSTUVWXYZabcdefghijklmnopqrstuvwxyzABCDEFGHIJKLMNOPQRSTUVWXYZ"),
  (0x1d44e, "abcdefg"),
  (0x1d456, "ijklmnopqrstuvwxyzABCDEFGHIJKLMNOPQRSTUVWXYZabcdefghijklmnopqrstuvwxyzA"),
  (0x1d49e, "CD"), (0x1d4a2, "G"), (0x1d4a5, "JK"), (0x1d4a9, "NOPQ"), (0x1d4ae, "STUVWXYZabcd"),
  (0x1d4bb, "f"), (0x1d4bd, "hijklmn"),
  (0x1d4c5, "pqrstuvwxyzABCDEFGHIJKLMNOPQRSTUVWXYZabcdefghijklmnopqrstuvwxyzAB"),
  (0x1d507, "DEFG"), (0x1d50d, "JKLMNOPQ"), (0x1d516, "STUVWXY"),
  (0x1d51e, "abcdefghijklmnopqrstuvwxyzAB"), (0x1d53b, "DEFG"), (0x1d540, "IJKLM"), (0x1d546, "O"),
  (0x1d54a, "STUVWXY"),
  (0x1d552, "abcdefghijklmnopqrstuvwxyzABCDEFGHIJKLMNOPQRSTUVWXYZabcdefghijklmnopqrstuvwxyz"),
  (0x1d5a0, "ABCDEFGHIJKLMNOPQRSTUVWXYZabcdefghijklmnopqrstuvwxyzABCDEFGHIJKLMNOPQRSTUVWXYZ"),
  (0x1d5ee, "abcdefghijklmnopqrstuvwxyzABCDEFGHIJKLMNOPQRSTUVWXYZabcdefghijklmnopqrstuvwxyz"),
  (0x1d63c, "ABCDEFGHIJKLMNOPQRSTUVWXYZabcdefghijklmnopqrstuvwxyzABCDEFGHIJKLMNOPQRSTUVWXYZ"),
  (0x1d68a, "abcdefghijklmnopqrstuvwxyz\u0131\u0237"),
  (0x1d6a8, "\u0391\u0392\u0393\u0394\u0395\u0396\u0397\u0398\u0399\u039a\u039b\u039c\u039d"),
  (0x1d6b5, "\u039e\u039f\u03a0\u03a1\u0398\u03a3\u03a4\u03a5\u03a6\u03a7\u03a8\u03a9"),
  (0x1d6c2, "\u03b1\u03b2\u03b3\u03b4\u03b5\u03b6\u03b7\u03b8\u03b9\u03ba\u03bb\u03bc\u03bd"),
  (0x1d6cf, "\u03be\u03bf\u03c0\u03c1\u03c2\u03c3\u03c4\u03c5\u03c6\u03c7\u03c8\u03c9"),
  (0x1d6dc, "\u03b5\u03b8\u03ba\u03c6\u03c1\u03c0\u0391\u0392\u0393\u0394\u0395\u0396\u0397"),
  (0x1d6e9, "\u0398\u0399\u039a\u039b\u039c\u039d\u039e\u039f\u03a0\u03a1\u0398\u03a3\u03a4"),
  (0x1d6f6, "\u03a5\u03a6\u03a7\u03a8\u03a9"),
  (0x1d6fc, "\u03b1\u03b2\u03b3\u03b4\u03b5\u03b6\u03b7\u03b8\u03b9\u03ba\u03bb\u03bc\u03bd"),
  (0x1d709, "\u03be\u03bf\u03c0\u03c1\u03c2\u03c3\u03c4\u03c5\u03c6\u03c7\u03c8\u03c9"),
  (0x1d716, "\u03b5\u03b8\u03ba\u03c6\u03c1\u03c0\u0391\u0392\u0393\u0394\u0395\u0396\u0397"),
  (0x1d723, "\u0398\u0399\u039a\u039b\u039c\u039d\u039e\u039f\u03a0\u03a1\u0398\u03a3\u03a4"),
  (0x1d730, "\u03a5\u03a6\u03a7\u03a8\u03a9"),
  (0x1d736, "\u03b1\u03b2\u03b3\u03b4\u03b5\u03b6\u03b7\u03b8\u03b9\u03ba\u03bb\u03bc\u03bd"),
  (0x1d743, "\u03be\u03bf\u03c0\u03c1\u03c2\u03c3\u03c4\u03c5\u03c6\u03c7\u03c8\u03c9"),
  (0x1d750, "\u03b5\u03b8\u03ba\u03c6\u03c1\u03c0\u0391\u0392\u0393\u0394\u0395\u0396\u0397"),
  (0x1d75d, "\u0398\u0399\u039a\u039b\u039c\u039d\u039e\u039f\u03a0\u03a1\u0398\u03a3\u03a4"),
  (0x1d76a, "\u03a5\u03a6\u03a7\u03a8\u03a9"),
  (0x1d770, "\u03b1\u03b2\u03b3\u03b4\u03b5\u03b6\u03b7\u03b8\u03b9\u03ba\u03bb\u03bc\u03bd"),
  (0x1d77d, "\u03be\u03bf\u03c0\u03c1\u03c2\u03c3\u03c4\u03c5\u03c6\u03c7\u03c8\u03c9"),
  (0x1d78a, "\u03b5\u03b8\u03ba\u03c6\u03c1\u03c0\u0391\u0392\u0393\u0394\u0395\u0396\u0397"),
  (0x1d797, "\u0398\u0399\u039a\u039b\u039c\u039d\u039e\u039f\u03a0\u03a1\u0398\u03a3\u03a4"),
  (0x1d7a4, "\u03a5\u03a6\u03a7\u03a8\u03a9"),
  (0x1d7aa, "\u03b1\u03b2\u03b3\u03b4\u03b5\u03b6\u03b7\u03b8\u03b9\u03ba\u03bb\u03bc\u03bd"),
  (0x1d7b7, "\u03be\u03bf\u03c0\u03c1\u03c2\u03c3\u03c4\u03c5\u03c6\u03c7\u03c8\u03c9"),
  (0x1d7c4, "\u03b5\u03b8\u03ba\u03c6\u03c1\u03c0\u03dc\u03dd"),
  (0x1d7ce, "01234567890123456789012345678901234567890123456789"),
  (0x1ee00, "\u0627\u0628\u062c\u062f"),
  (0x1ee05, "\u0648\u0632\u062d\u0637\u064a\u0643\u0644\u0645\u0646\u0633\u0639\u0641\u0635"),
  (0x1ee12, "\u0642\u0631\u0634\u062a\u062b\u062e\u0630\u0636\u0638\u063a\u066e\u06ba\u06a1"),
  (0x1ee1f, "\u066f"), (0x1ee21, "\u0628\u062c"), (0x1ee24, "\u0647"), (0x1ee27, "\u062d"),
  (0x1ee29, "\u064a\u0643\u0644\u0645\u0646\u0633\u0639\u0641\u0635\u0642"),
  (0x1ee34, "\u0634\u062a\u062b\u062e"), (0x1ee39, "\u0636"), (0x1ee3b, "\u063a"),
  (0x1ee42, "\u062c"), (0x1ee47, "\u062d"), (0x1ee49, "\u064a"), (0x1ee4b, "\u0644"),
  (0x1ee4d, "\u0646\u0633\u0639"), (0x1ee51, "\u0635\u0642"), (0x1ee54, "\u0634"),
  (0x1ee57, "\u062e"), (0x1ee59, "\u0636"), (0x1ee5b, "\u063a"), (0x1ee5d, "\u06ba"),
  (0x1ee5f, "\u066f"), (0x1ee61, "\u0628\u062c"), (0x1ee64, "\u0647"),
  (0x1ee67, "\u062d\u0637\u064a\u0643"), (0x1ee6c, "\u0645\u0646\u0633\u0639\u0641\u0635\u0642"),
  (0x1ee74, "\u0634\u062a\u062b\u062e"), (0x1ee79, "\u0636\u0638\u063a\u066e"),
  (0x1ee7e, "\u06a1"), (0x1ee80, "\u0627\u0628\u062c\u062f\u0647\u0648\u0632\u062d\u0637\u064a"),
  (0x1ee8b, "\u0644\u0645\u0646\u0633\u0639\u0641\u0635\u0642\u0631\u0634\u062a\u062b\u062e"),
  (0x1ee98, "\u0630\u0636\u0638\u063a"), (0x1eea1, "\u0628\u062c\u062f"),
  (0x1eea5, "\u0648\u0632\u062d\u0637\u064a"),
  (0x1eeab, "\u0644\u0645\u0646\u0633\u0639\u0641\u0635\u0642\u0631\u0634\u062a\u062b\u062e"),
  (0x1eeb8, "\u0630\u0636\u0638\u063a"), (0x1fbf0, "0123456789"),
  (0x2f800, "丽丸乁𠄢你侮侻倂偺備僧像㒞𠘺免兔兤具𠔜㒹內再𠕋冗冤仌冬况𩇟凵刃㓟刻剆割剷㔕勇勉"),
  (0x2f827, "勤勺包匆北卉卑博即卽卿卿卿𠨬灰及叟𠭣叫叱吆咞吸呈周咢哶唐啓啣善善喙喫喳嗂圖嘆圗"),
  (0x2f84e, "噑噴切壮城埴堍型堲報墬𡓤売壷夆多夢奢𡚨𡛪姬娛娧姘婦㛮㛼嬈嬾嬾𡧈寃寘寧寳𡬘寿将当"),
  (0x2f875, "尢㞁屠屮峀岍𡷤嵃𡷦嵮嵫嵼巡巢㠯巽帨帽幩㡢𢆃㡼庰庳庶廊𪎒廾𢌱𢌱舁弢弢㣇𣊸𦇚形彫㣣"),
  (0x2f89c, "徚忍志忹悁㤺㤜悔𢛔惇慈慌慎慌慺憎憲憤憯懞懲懶成戛扝抱拔捐𢬌挽拼捨掃揤𢯱搢揅掩㨮"),
  (0x2f8c3, "摩摾撝摷㩬敏敬𣀊旣書晉㬙暑㬈㫤冒冕最暜肭䏙朗望朡杞杓𣏃㭉柺枅桒梅𣑭梎栟椔㮝楂榣"),
  (0x2f8ea, "槪檨𣚣櫛㰘次𣢧歔㱎歲殟殺殻𣪍𡴋𣫺汎𣲼沿泍汧洖派海流浩浸涅𣴞洴港湮㴳滋滇𣻑淹潮𣽞"),
  (0x2f911, "𣾎濆瀹瀞瀛㶖灊災灷炭𠔥煅𤉣熜𤎫爨爵牐𤘈犀犕𤜵𤠔獺王㺬玥㺸㺸瑇瑜瑱璅瓊㼛甤𤰶甾𤲒"),
  (0x2f938, "異𢆟瘐𤾡𤾸𥁄㿼䀈直𥃳𥃲𥄙𥄳眞真真睊䀹瞋䁆䂖𥐝硎碌磌䃣𥘦祖𥚚𥛅福秫䄯穀穊穏𥥼𥪧𥪧"),
  (0x2f95f, "竮䈂𥮫篆築䈧𥲀糒䊠糨糣紀𥾆絣䌁緇縂繅䌴𦈨𦉇䍙𦋙罺𦌾羕翺者𦓚𦔣聠𦖨聰𣍟䏕育脃䐋脾"),
  (0x2f986, "媵𦞧𦞵𣎓𣎜舁舄辞䑫芑芋芝劳花芳芽苦𦬼若茝荣莭茣莽菧著荓菊菌菜𦰶𦵫𦳕䔫蓱蓳蔖𧏊蕤"),
  (0x2f9ad, "𦼬䕝䕡𦾱𧃒䕫虐虜虧虩蚩蚈蜎蛢蝹蜨蝫螆䗗蟡蠁䗹衠衣𧙧裗裞䘵裺㒻𧢮𧥦䚾䛇誠諭變豕𧲨"),
  (0x2f9d4, "貫賁贛起𧼯𠠄跋趼跰𠣞軔輸𨗒𨗭邔郱鄑𨜮鄛鈸鋗鋘鉼鏹鐕𨯺開䦕閷𨵷䧦雃嶲霣𩅅𩈚䩮䩶韠"),
  (0x2f9fb, "𩐊䪲𩒖頋頋頩𩖶飢䬳餩馧駂駾䯎𩬰鬒鱀鳽䳎䳭鵧𪃎䳸𪄅𪈎𪊑麻䵖黹黾鼅鼏鼖鼻𪘀")]

/-- Characters that stand for several. -/
def ligatures : List (Nat × String) := [
  (0x132, "IJ"), (0x133, "ij"), (0x13f, "L\u00b7"), (0x140, "l\u00b7"), (0x149, "\u02bcn"),
  (0x1c4, "DZ\u030c"), (0x1c5, "Dz\u030c"), (0x1c6, "dz\u030c"), (0x1c7, "LJ"), (0x1c8, "Lj"),
  (0x1c9, "lj"), (0x1ca, "NJ"), (0x1cb, "Nj"), (0x1cc, "nj"), (0x1f1, "DZ"), (0x1f2, "Dz"),
  (0x1f3, "dz"), (0x344, "\u0308\u0301"), (0x587, "\u0565\u0582"), (0x675, "\u0627\u0674"),
  (0x676, "\u0648\u0674"), (0x677, "\u06c7\u0674"), (0x678, "\u064a\u0674"),
  (0x958, "\u0915\u093c"), (0x959, "\u0916\u093c"), (0x95a, "\u0917\u093c"),
  (0x95b, "\u091c\u093c"), (0x95c, "\u0921\u093c"), (0x95d, "\u0922\u093c"),
  (0x95e, "\u092b\u093c"), (0x95f, "\u092f\u093c"), (0x9dc, "\u09a1\u09bc"),
  (0x9dd, "\u09a2\u09bc"), (0x9df, "\u09af\u09bc"), (0xa33, "\u0a32\u0a3c"),
  (0xa36, "\u0a38\u0a3c"), (0xa59, "\u0a16\u0a3c"), (0xa5a, "\u0a17\u0a3c"),
  (0xa5b, "\u0a1c\u0a3c"), (0xa5e, "\u0a2b\u0a3c"), (0xb5c, "\u0b21\u0b3c"),
  (0xb5d, "\u0b22\u0b3c"), (0xe33, "\u0e4d\u0e32"), (0xeb3, "\u0ecd\u0eb2"),
  (0xedc, "\u0eab\u0e99"), (0xedd, "\u0eab\u0ea1"), (0xf43, "\u0f42\u0fb7"),
  (0xf4d, "\u0f4c\u0fb7"), (0xf52, "\u0f51\u0fb7"), (0xf57, "\u0f56\u0fb7"),
  (0xf5c, "\u0f5b\u0fb7"), (0xf69, "\u0f40\u0fb5"), (0xf73, "\u0f71\u0f72"),
  (0xf75, "\u0f71\u0f74"), (0xf76, "\u0fb2\u0f80"), (0xf77, "\u0fb2\u0f71\u0f80"),
  (0xf78, "\u0fb3\u0f80"), (0xf79, "\u0fb3\u0f71\u0f80"), (0xf81, "\u0f71\u0f80"),
  (0xf93, "\u0f92\u0fb7"), (0xf9d, "\u0f9c\u0fb7"), (0xfa2, "\u0fa1\u0fb7"),
  (0xfa7, "\u0fa6\u0fb7"), (0xfac, "\u0fab\u0fb7"), (0xfb9, "\u0f90\u0fb5"), (0x1e9a, "a\u02be"),
  (0x1f71, "\u03b1\u0301"), (0x1f73, "\u03b5\u0301"), (0x1f75, "\u03b7\u0301"),
  (0x1f77, "\u03b9\u0301"), (0x1f79, "\u03bf\u0301"), (0x1f7b, "\u03c5\u0301"),
  (0x1f7d, "\u03c9\u0301"), (0x1fbb, "\u0391\u0301"), (0x1fc9, "\u0395\u0301"),
  (0x1fcb, "\u0397\u0301"), (0x1fd3, "\u03b9\u0308\u0301"), (0x1fdb, "\u0399\u0301"),
  (0x1fe3, "\u03c5\u0308\u0301"), (0x1feb, "\u03a5\u0301"), (0x1ff9, "\u039f\u0301"),
  (0x1ffb, "\u03a9\u0301"), (0x212b, "A\u030a"), (0x2161, "II"), (0x2162, "III"), (0x2163, "IV"),
  (0x2165, "VI"), (0x2166, "VII"), (0x2167, "VIII"), (0x2168, "IX"), (0x216a, "XI"),
  (0x216b, "XII"), (0x2171, "ii"), (0x2172, "iii"), (0x2173, "iv"), (0x2175, "vi"),
  (0x2176, "vii"), (0x2177, "viii"), (0x2178, "ix"), (0x217a, "xi"), (0x217b, "xii"),
  (0x309f, "\u3088\u308a"), (0x30ff, "\u30b3\u30c8"), (0xfb00, "ff"), (0xfb01, "fi"),
  (0xfb02, "fl"), (0xfb03, "ffi"), (0xfb04, "ffl"), (0xfb05, "st"), (0xfb06, "st"),
  (0xfb13, "\u0574\u0576"), (0xfb14, "\u0574\u0565"), (0xfb15, "\u0574\u056b"),
  (0xfb16, "\u057e\u0576"), (0xfb17, "\u0574\u056d"), (0xfb1d, "\u05d9\u05b4"),
  (0xfb1f, "\u05f2\u05b7"), (0xfb2a, "\u05e9\u05c1"), (0xfb2b, "\u05e9\u05c2"),
  (0xfb2c, "\u05e9\u05bc\u05c1"), (0xfb2d, "\u05e9\u05bc\u05c2"), (0xfb2e, "\u05d0\u05b7"),
  (0xfb2f, "\u05d0\u05b8"), (0xfb30, "\u05d0\u05bc"), (0xfb31, "\u05d1\u05bc"),
  (0xfb32, "\u05d2\u05bc"), (0xfb33, "\u05d3\u05bc"), (0xfb34, "\u05d4\u05bc"),
  (0xfb35, "\u05d5\u05bc"), (0xfb36, "\u05d6\u05bc"), (0xfb38, "\u05d8\u05bc"),
  (0xfb39, "\u05d9\u05bc"), (0xfb3a, "\u05da\u05bc"), (0xfb3b, "\u05db\u05bc"),
  (0xfb3c, "\u05dc\u05bc"), (0xfb3e, "\u05de\u05bc"), (0xfb40, "\u05e0\u05bc"),
  (0xfb41, "\u05e1\u05bc"), (0xfb43, "\u05e3\u05bc"), (0xfb44, "\u05e4\u05bc"),
  (0xfb46, "\u05e6\u05bc"), (0xfb47, "\u05e7\u05bc"), (0xfb48, "\u05e8\u05bc"),
  (0xfb49, "\u05e9\u05bc"), (0xfb4a, "\u05ea\u05bc"), (0xfb4b, "\u05d5\u05b9"),
  (0xfb4c, "\u05d1\u05bf"), (0xfb4d, "\u05db\u05bf"), (0xfb4e, "\u05e4\u05bf"),
  (0xfb4f, "\u05d0\u05dc"), (0xfba4, "\u06d5\u0654"), (0xfba5, "\u06d5\u0654"),
  (0xfbb0, "\u06d2\u0654"), (0xfbb1, "\u06d2\u0654"), (0xfbdd, "\u06c7\u0674"),
  (0xfbea, "\u064a\u0654\u0627"), (0xfbeb, "\u064a\u0654\u0627"), (0xfbec, "\u064a\u0654\u06d5"),
  (0xfbed, "\u064a\u0654\u06d5"), (0xfbee, "\u064a\u0654\u0648"), (0xfbef, "\u064a\u0654\u0648"),
  (0xfbf0, "\u064a\u0654\u06c7"), (0xfbf1, "\u064a\u0654\u06c7"), (0xfbf2, "\u064a\u0654\u06c6"),
  (0xfbf3, "\u064a\u0654\u06c6"), (0xfbf4, "\u064a\u0654\u06c8"), (0xfbf5, "\u064a\u0654\u06c8"),
  (0xfbf6, "\u064a\u0654\u06d0"), (0xfbf7, "\u064a\u0654\u06d0"), (0xfbf8, "\u064a\u0654\u06d0"),
  (0xfbf9, "\u064a\u0654\u0649"), (0xfbfa, "\u064a\u0654\u0649"), (0xfbfb, "\u064a\u0654\u0649"),
  (0xfc00, "\u064a\u0654\u062c"), (0xfc01, "\u064a\u0654\u062d"), (0xfc02, "\u064a\u0654\u0645"),
  (0xfc03, "\u064a\u0654\u0649"), (0xfc04, "\u064a\u0654\u064a"), (0xfc05, "\u0628\u062c"),
  (0xfc06, "\u0628\u062d"), (0xfc07, "\u0628\u062e"), (0xfc08, "\u0628\u0645"),
  (0xfc09, "\u0628\u0649"), (0xfc0a, "\u0628\u064a"), (0xfc0b, "\u062a\u062c"),
  (0xfc0c, "\u062a\u062d"), (0xfc0d, "\u062a\u062e"), (0xfc0e, "\u062a\u0645"),
  (0xfc0f, "\u062a\u0649"), (0xfc10, "\u062a\u064a"), (0xfc11, "\u062b\u062c"),
  (0xfc12, "\u062b\u0645"), (0xfc13, "\u062b\u0649"), (0xfc14, "\u062b\u064a"),
  (0xfc15, "\u062c\u062d"), (0xfc16, "\u062c\u0645"), (0xfc17, "\u062d\u062c"),
  (0xfc18, "\u062d\u0645"), (0xfc19, "\u062e\u062c"), (0xfc1a, "\u062e\u062d"),
  (0xfc1b, "\u062e\u0645"), (0xfc1c, "\u0633\u062c"), (0xfc1d, "\u0633\u062d"),
  (0xfc1e, "\u0633\u062e"), (0xfc1f, "\u0633\u0645"), (0xfc20, "\u0635\u062d"),
  (0xfc21, "\u0635\u0645"), (0xfc22, "\u0636\u062c"), (0xfc23, "\u0636\u062d"),
  (0xfc24, "\u0636\u062e"), (0xfc25, "\u0636\u0645"), (0xfc26, "\u0637\u062d"),
  (0xfc27, "\u0637\u0645"), (0xfc28, "\u0638\u0645"), (0xfc29, "\u0639\u062c"),
  (0xfc2a, "\u0639\u0645"), (0xfc2b, "\u063a\u062c"), (0xfc2c, "\u063a\u0645"),
  (0xfc2d, "\u0641\u062c"), (0xfc2e, "\u0641\u062d"), (0xfc2f, "\u0641\u062e"),
  (0xfc30, "\u0641\u0645"), (0xfc31, "\u0641\u0649"), (0xfc32, "\u0641\u064a"),
  (0xfc33, "\u0642\u062d"), (0xfc34, "\u0642\u0645"), (0xfc35, "\u0642\u0649"),
  (0xfc36, "\u0642\u064a"), (0xfc37, "\u0643\u0627"), (0xfc38, "\u0643\u062c"),
  (0xfc39, "\u0643\u062d"), (0xfc3a, "\u0643\u062e"), (0xfc3b, "\u0643\u0644"),
  (0xfc3c, "\u0643\u0645"), (0xfc3d, "\u0643\u0649"), (0xfc3e, "\u0643\u064a"),
  (0xfc3f, "\u0644\u062c"), (0xfc40, "\u0644\u062d"), (0xfc41, "\u0644\u062e"),
  (0xfc42, "\u0644\u0645"), (0xfc43, "\u0644\u0649"), (0xfc44, "\u0644\u064a"),
  (0xfc45, "\u0645\u062c"), (0xfc46, "\u0645\u062d"), (0xfc47, "\u0645\u062e"),
  (0xfc48, "\u0645\u0645"), (0xfc49, "\u0645\u0649"), (0xfc4a, "\u0645\u064a"),
  (0xfc4b, "\u0646\u062c"), (0xfc4c, "\u0646\u062d"), (0xfc4d, "\u0646\u062e"),
  (0xfc4e, "\u0646\u0645"), (0xfc4f, "\u0646\u0649"), (0xfc50, "\u0646\u064a"),
  (0xfc51, "\u0647\u062c"), (0xfc52, "\u0647\u0645"), (0xfc53, "\u0647\u0649"),
  (0xfc54, "\u0647\u064a"), (0xfc55, "\u064a\u062c"), (0xfc56, "\u064a\u062d"),
  (0xfc57, "\u064a\u062e"), (0xfc58, "\u064a\u0645"), (0xfc59, "\u064a\u0649"),
  (0xfc5a, "\u064a\u064a"), (0xfc5b, "\u0630\u0670"), (0xfc5c, "\u0631\u0670"),
  (0xfc5d, "\u0649\u0670"), (0xfc64, "\u064a\u0654\u0631"), (0xfc65, "\u064a\u0654\u0632"),
  (0xfc66, "\u064a\u0654\u0645"), (0xfc67, "\u064a\u0654\u0646"), (0xfc68, "\u064a\u0654\u0649"),
  (0xfc69, "\u064a\u0654\u064a"), (0xfc6a, "\u0628\u0631"), (0xfc6b, "\u0628\u0632"),
  (0xfc6c, "\u0628\u0645"), (0xfc6d, "\u0628\u0646"), (0xfc6e, "\u0628\u0649"),
  (0xfc6f, "\u0628\u064a"), (0xfc70, "\u062a\u0631"), (0xfc71, "\u062a\u0632"),
  (0xfc72, "\u062a\u0645"), (0xfc73, "\u062a\u0646"), (0xfc74, "\u062a\u0649"),
  (0xfc75, "\u062a\u064a"), (0xfc76, "\u062b\u0631"), (0xfc77, "\u062b\u0632"),
  (0xfc78, "\u062b\u0645"), (0xfc79, "\u062b\u0646"), (0xfc7a, "\u062b\u0649"),
  (0xfc7b, "\u062b\u064a"), (0xfc7c, "\u0641\u0649"), (0xfc7d, "\u0641\u064a"),
  (0xfc7e, "\u0642\u0649"), (0xfc7f, "\u0642\u064a"), (0xfc80, "\u0643\u0627"),
  (0xfc81, "\u0643\u0644"), (0xfc82, "\u0643\u0645"), (0xfc83, "\u0643\u0649"),
  (0xfc84, "\u0643\u064a"), (0xfc85, "\u0644\u0645"), (0xfc86, "\u0644\u0649"),
  (0xfc87, "\u0644\u064a"), (0xfc88, "\u0645\u0627"), (0xfc89, "\u0645\u0645"),
  (0xfc8a, "\u0646\u0631"), (0xfc8b, "\u0646\u0632"), (0xfc8c, "\u0646\u0645"),
  (0xfc8d, "\u0646\u0646"), (0xfc8e, "\u0646\u0649"), (0xfc8f, "\u0646\u064a"),
  (0xfc90, "\u0649\u0670"), (0xfc91, "\u064a\u0631"), (0xfc92, "\u064a\u0632"),
  (0xfc93, "\u064a\u0645"), (0xfc94, "\u064a\u0646"), (0xfc95, "\u064a\u0649"),
  (0xfc96, "\u064a\u064a"), (0xfc97, "\u064a\u0654\u062c"), (0xfc98, "\u064a\u0654\u062d"),
  (0xfc99, "\u064a\u0654\u062e"), (0xfc9a, "\u064a\u0654\u0645"), (0xfc9b, "\u064a\u0654\u0647"),
  (0xfc9c, "\u0628\u062c"), (0xfc9d, "\u0628\u062d"), (0xfc9e, "\u0628\u062e"),
  (0xfc9f, "\u0628\u0645"), (0xfca0, "\u0628\u0647"), (0xfca1, "\u062a\u062c"),
  (0xfca2, "\u062a\u062d"), (0xfca3, "\u062a\u062e"), (0xfca4, "\u062a\u0645"),
  (0xfca5, "\u062a\u0647"), (0xfca6, "\u062b\u0645"), (0xfca7, "\u062c\u062d"),
  (0xfca8, "\u062c\u0645"), (0xfca9, "\u062d\u062c"), (0xfcaa, "\u062d\u0645"),
  (0xfcab, "\u062e\u062c"), (0xfcac, "\u062e\u0645"), (0xfcad, "\u0633\u062c"),
  (0xfcae, "\u0633\u062d"), (0xfcaf, "\u0633\u062e"), (0xfcb0, "\u0633\u0645"),
  (0xfcb1, "\u0635\u062d"), (0xfcb2, "\u0635\u062e"), (0xfcb3, "\u0635\u0645"),
  (0xfcb4, "\u0636\u062c"), (0xfcb5, "\u0636\u062d"), (0xfcb6, "\u0636\u062e"),
  (0xfcb7, "\u0636\u0645"), (0xfcb8, "\u0637\u062d"), (0xfcb9, "\u0638\u0645"),
  (0xfcba, "\u0639\u062c"), (0xfcbb, "\u0639\u0645"), (0xfcbc, "\u063a\u062c"),
  (0xfcbd, "\u063a\u0645"), (0xfcbe, "\u0641\u062c"), (0xfcbf, "\u0641\u062d"),
  (0xfcc0, "\u0641\u062e"), (0xfcc1, "\u0641\u0645"), (0xfcc2, "\u0642\u062d"),
  (0xfcc3, "\u0642\u0645"), (0xfcc4, "\u0643\u062c"), (0xfcc5, "\u0643\u062d"),
  (0xfcc6, "\u0643\u062e"), (0xfcc7, "\u0643\u0644"), (0xfcc8, "\u0643\u0645"),
  (0xfcc9, "\u0644\u062c"), (0xfcca, "\u0644\u062d"), (0xfccb, "\u0644\u062e"),
  (0xfccc, "\u0644\u0645"), (0xfccd, "\u0644\u0647"), (0xfcce, "\u0645\u062c"),
  (0xfccf, "\u0645\u062d"), (0xfcd0, "\u0645\u062e"), (0xfcd1, "\u0645\u0645"),
  (0xfcd2, "\u0646\u062c"), (0xfcd3, "\u0646\u062d"), (0xfcd4, "\u0646\u062e"),
  (0xfcd5, "\u0646\u0645"), (0xfcd6, "\u0646\u0647"), (0xfcd7, "\u0647\u062c"),
  (0xfcd8, "\u0647\u0645"), (0xfcd9, "\u0647\u0670"), (0xfcda, "\u064a\u062c"),
  (0xfcdb, "\u064a\u062d"), (0xfcdc, "\u064a\u062e"), (0xfcdd, "\u064a\u0645"),
  (0xfcde, "\u064a\u0647"), (0xfcdf, "\u064a\u0654\u0645"), (0xfce0, "\u064a\u0654\u0647"),
  (0xfce1, "\u0628\u0645"), (0xfce2, "\u0628\u0647"), (0xfce3, "\u062a\u0645"),
  (0xfce4, "\u062a\u0647"), (0xfce5, "\u062b\u0645"), (0xfce6, "\u062b\u0647"),
  (0xfce7, "\u0633\u0645"), (0xfce8, "\u0633\u0647"), (0xfce9, "\u0634\u0645"),
  (0xfcea, "\u0634\u0647"), (0xfceb, "\u0643\u0644"), (0xfcec, "\u0643\u0645"),
  (0xfced, "\u0644\u0645"), (0xfcee, "\u0646\u0645"), (0xfcef, "\u0646\u0647"),
  (0xfcf0, "\u064a\u0645"), (0xfcf1, "\u064a\u0647"), (0xfcf2, "\u0640\u064e\u0651"),
  (0xfcf3, "\u0640\u064f\u0651"), (0xfcf4, "\u0640\u0650\u0651"), (0xfcf5, "\u0637\u0649"),
  (0xfcf6, "\u0637\u064a"), (0xfcf7, "\u0639\u0649"), (0xfcf8, "\u0639\u064a"),
  (0xfcf9, "\u063a\u0649"), (0xfcfa, "\u063a\u064a"), (0xfcfb, "\u0633\u0649"),
  (0xfcfc, "\u0633\u064a"), (0xfcfd, "\u0634\u0649"), (0xfcfe, "\u0634\u064a"),
  (0xfcff, "\u062d\u0649"), (0xfd00, "\u062d\u064a"), (0xfd01, "\u062c\u0649"),
  (0xfd02, "\u062c\u064a"), (0xfd03, "\u062e\u0649"), (0xfd04, "\u062e\u064a"),
  (0xfd05, "\u0635\u0649"), (0xfd06, "\u0635\u064a"), (0xfd07, "\u0636\u0649"),
  (0xfd08, "\u0636\u064a"), (0xfd09, "\u0634\u062c"), (0xfd0a, "\u0634\u062d"),
  (0xfd0b, "\u0634\u062e"), (0xfd0c, "\u0634\u0645"), (0xfd0d, "\u0634\u0631"),
  (0xfd0e, "\u0633\u0631"), (0xfd0f, "\u0635\u0631"), (0xfd10, "\u0636\u0631"),
  (0xfd11, "\u0637\u0649"), (0xfd12, "\u0637\u064a"), (0xfd13, "\u0639\u0649"),
  (0xfd14, "\u0639\u064a"), (0xfd15, "\u063a\u0649"), (0xfd16, "\u063a\u064a"),
  (0xfd17, "\u0633\u0649"), (0xfd18, "\u0633\u064a"), (0xfd19, "\u0634\u0649"),
  (0xfd1a, "\u0634\u064a"), (0xfd1b, "\u062d\u0649"), (0xfd1c, "\u062d\u064a"),
  (0xfd1d, "\u062c\u0649"), (0xfd1e, "\u062c\u064a"), (0xfd1f, "\u062e\u0649"),
  (0xfd20, "\u062e\u064a"), (0xfd21, "\u0635\u0649"), (0xfd22, "\u0635\u064a"),
  (0xfd23, "\u0636\u0649"), (0xfd24, "\u0636\u064a"), (0xfd25, "\u0634\u062c"),
  (0xfd26, "\u0634\u062d"), (0xfd27, "\u0634\u062e"), (0xfd28, "\u0634\u0645"),
  (0xfd29, "\u0634\u0631"), (0xfd2a, "\u0633\u0631"), (0xfd2b, "\u0635\u0631"),
  (0xfd2c, "\u0636\u0631"), (0xfd2d, "\u0634\u062c"), (0xfd2e, "\u0634\u062d"),
  (0xfd2f, "\u0634\u062e"), (0xfd30, "\u0634\u0645"), (0xfd31, "\u0633\u0647"),
  (0xfd32, "\u0634\u0647"), (0xfd33, "\u0637\u0645"), (0xfd34, "\u0633\u062c"),
  (0xfd35, "\u0633\u062d"), (0xfd36, "\u0633\u062e"), (0xfd37, "\u0634\u062c"),
  (0xfd38, "\u0634\u062d"), (0xfd39, "\u0634\u062e"), (0xfd3a, "\u0637\u0645"),
  (0xfd3b, "\u0638\u0645"), (0xfd3c, "\u0627\u064b"), (0xfd3d, "\u0627\u064b"),
  (0xfd50, "\u062a\u062c\u0645"), (0xfd51, "\u062a\u062d\u062c"), (0xfd52, "\u062a\u062d\u062c"),
  (0xfd53, "\u062a\u062d\u0645"), (0xfd54, "\u062a\u062e\u0645"), (0xfd55, "\u062a\u0645\u062c"),
  (0xfd56, "\u062a\u0645\u062d"), (0xfd57, "\u062a\u0645\u062e"), (0xfd58, "\u062c\u0645\u062d"),
  (0xfd59, "\u062c\u0645\u062d"), (0xfd5a, "\u062d\u0645\u064a"), (0xfd5b, "\u062d\u0645\u0649"),
  (0xfd5c, "\u0633\u062d\u062c"), (0xfd5d, "\u0633\u062c\u062d"), (0xfd5e, "\u0633\u062c\u0649"),
  (0xfd5f, "\u0633\u0645\u062d"), (0xfd60, "\u0633\u0645\u062d"), (0xfd61, "\u0633\u0645\u062c"),
  (0xfd62, "\u0633\u0645\u0645"), (0xfd63, "\u0633\u0645\u0645"), (0xfd64, "\u0635\u062d\u062d"),
  (0xfd65, "\u0635\u062d\u062d"), (0xfd66, "\u0635\u0645\u0645"), (0xfd67, "\u0634\u062d\u0645"),
  (0xfd68, "\u0634\u062d\u0645"), (0xfd69, "\u0634\u062c\u064a"), (0xfd6a, "\u0634\u0645\u062e"),
  (0xfd6b, "\u0634\u0645\u062e"), (0xfd6c, "\u0634\u0645\u0645"), (0xfd6d, "\u0634\u0645\u0645"),
  (0xfd6e, "\u0636\u062d\u0649"), (0xfd6f, "\u0636\u062e\u0645"), (0xfd70, "\u0636\u062e\u0645"),
  (0xfd71, "\u0637\u0645\u062d"), (0xfd72, "\u0637\u0645\u062d"), (0xfd73, "\u0637\u0645\u0645"),
  (0xfd74, "\u0637\u0645\u064a"), (0xfd75, "\u0639\u062c\u0645"), (0xfd76, "\u0639\u0645\u0645"),
  (0xfd77, "\u0639\u0645\u0645"), (0xfd78, "\u0639\u0645\u0649"), (0xfd79, "\u063a\u0645\u0645"),
  (0xfd7a, "\u063a\u0645\u064a"), (0xfd7b, "\u063a\u0645\u0649"), (0xfd7c, "\u0641\u062e\u0645"),
  (0xfd7d, "\u0641\u062e\u0645"), (0xfd7e, "\u0642\u0645\u062d"), (0xfd7f, "\u0642\u0645\u0645"),
  (0xfd80, "\u0644\u062d\u0645"), (0xfd81, "\u0644\u062d\u064a"), (0xfd82, "\u0644\u062d\u0649"),
  (0xfd83, "\u0644\u062c\u062c"), (0xfd84, "\u0644\u062c\u062c"), (0xfd85, "\u0644\u062e\u0645"),
  (0xfd86, "\u0644\u062e\u0645"), (0xfd87, "\u0644\u0645\u062d"), (0xfd88, "\u0644\u0645\u062d"),
  (0xfd89, "\u0645\u062d\u062c"), (0xfd8a, "\u0645\u062d\u0645"), (0xfd8b, "\u0645\u062d\u064a"),
  (0xfd8c, "\u0645\u062c\u062d"), (0xfd8d, "\u0645\u062c\u0645"), (0xfd8e, "\u0645\u062e\u062c"),
  (0xfd8f, "\u0645\u062e\u0645"), (0xfd92, "\u0645\u062c\u062e"), (0xfd93, "\u0647\u0645\u062c"),
  (0xfd94, "\u0647\u0645\u0645"), (0xfd95, "\u0646\u062d\u0645"), (0xfd96, "\u0646\u062d\u0649"),
  (0xfd97, "\u0646\u062c\u0645"), (0xfd98, "\u0646\u062c\u0645"), (0xfd99, "\u0646\u062c\u0649"),
  (0xfd9a, "\u0646\u0645\u064a"), (0xfd9b, "\u0646\u0645\u0649"), (0xfd9c, "\u064a\u0645\u0645"),
  (0xfd9d, "\u064a\u0645\u0645"), (0xfd9e, "\u0628\u062e\u064a"), (0xfd9f, "\u062a\u062c\u064a"),
  (0xfda0, "\u062a\u062c\u0649"), (0xfda1, "\u062a\u062e\u064a"), (0xfda2, "\u062a\u062e\u0649"),
  (0xfda3, "\u062a\u0645\u064a"), (0xfda4, "\u062a\u0645\u0649"), (0xfda5, "\u062c\u0645\u064a"),
  (0xfda6, "\u062c\u062d\u0649"), (0xfda7, "\u062c\u0645\u0649"), (0xfda8, "\u0633\u062e\u0649"),
  (0xfda9, "\u0635\u062d\u064a"), (0xfdaa, "\u0634\u062d\u064a"), (0xfdab, "\u0636\u062d\u064a"),
  (0xfdac, "\u0644\u062c\u064a"), (0xfdad, "\u0644\u0645\u064a"), (0xfdae, "\u064a\u062d\u064a"),
  (0xfdaf, "\u064a\u062c\u064a"), (0xfdb0, "\u064a\u0645\u064a"), (0xfdb1, "\u0645\u0645\u064a"),
  (0xfdb2, "\u0642\u0645\u064a"), (0xfdb3, "\u0646\u062d\u064a"), (0xfdb4, "\u0642\u0645\u062d"),
  (0xfdb5, "\u0644\u062d\u0645"), (0xfdb6, "\u0639\u0645\u064a"), (0xfdb7, "\u0643\u0645\u064a"),
  (0xfdb8, "\u0646\u062c\u062d"), (0xfdb9, "\u0645\u062e\u064a"), (0xfdba, "\u0644\u062c\u0645"),
  (0xfdbb, "\u0643\u0645\u0645"), (0xfdbc, "\u0644\u062c\u0645"), (0xfdbd, "\u0646\u062c\u062d"),
  (0xfdbe, "\u062c\u062d\u064a"), (0xfdbf, "\u062d\u062c\u064a"), (0xfdc0, "\u0645\u062c\u064a"),
  (0xfdc1, "\u0641\u0645\u064a"), (0xfdc2, "\u0628\u062d\u064a"), (0xfdc3, "\u0643\u0645\u0645"),
  (0xfdc4, "\u0639\u062c\u0645"), (0xfdc5, "\u0635\u0645\u0645"), (0xfdc6, "\u0633\u062e\u064a"),
  (0xfdc7, "\u0646\u062c\u064a"), (0xfdf0, "\u0635\u0644\u06d2"), (0xfdf1, "\u0642\u0644\u06d2"),
  (0xfdf2, "\u0627\u0644\u0644\u0647"), (0xfdf3, "\u0627\u0643\u0628\u0631"),
  (0xfdf4, "\u0645\u062d\u0645\u062f"), (0xfdf5, "\u0635\u0644\u0639\u0645"),
  (0xfdf6, "\u0631\u0633\u0648\u0644"), (0xfdf7, "\u0639\u0644\u064a\u0647"),
  (0xfdf8, "\u0648\u0633\u0644\u0645"), (0xfdf9, "\u0635\u0644\u0649"), (0xfe71, "\u0640\u064b"),
  (0xfe77, "\u0640\u064e"), (0xfe79, "\u0640\u064f"), (0xfe7b, "\u0640\u0650"),
  (0xfe7d, "\u0640\u0651"), (0xfe7f, "\u0640\u0652"), (0xfe81, "\u0627\u0653"),
  (0xfe82, "\u0627\u0653"), (0xfe83, "\u0627\u0654"), (0xfe84, "\u0627\u0654"),
  (0xfe85, "\u0648\u0654"), (0xfe86, "\u0648\u0654"), (0xfe87, "\u0627\u0655"),
  (0xfe88, "\u0627\u0655"), (0xfe89, "\u064a\u0654"), (0xfe8a, "\u064a\u0654"),
  (0xfe8b, "\u064a\u0654"), (0xfe8c, "\u064a\u0654"), (0xfef5, "\u0644\u0627\u0653"),
  (0xfef6, "\u0644\u0627\u0653"), (0xfef7, "\u0644\u0627\u0654"), (0xfef8, "\u0644\u0627\u0654"),
  (0xfef9, "\u0644\u0627\u0655"), (0xfefa, "\u0644\u0627\u0655"), (0xfefb, "\u0644\u0627"),
  (0xfefc, "\u0644\u0627")]

/-- Characters that are made of a character and a mark: the mark, the characters, and what each of
them is without the mark. -/
def markedLetters : List (Nat × String × String) := [
  (0x300, "\u00c0\u00c8\u00cc\u00d2\u00d9\u00e0\u00e8\u00ec\u00f2\u00f9", "AEIOUaeiou"),
  (0x300, "\u01db\u01dc\u01f8\u01f9\u0400\u040d\u0450", "\u00dc\u00fcNn\u0415\u0418\u0435"),
  (0x300, "\u045d\u1e14\u1e15\u1e50\u1e51\u1e80\u1e81", "\u0438\u0112\u0113\u014c\u014dWw"),
  (0x300, "\u1ea6\u1ea7\u1eb0\u1eb1\u1ec0\u1ec1", "\u00c2\u00e2\u0102\u0103\u00ca\u00ea"),
  (0x300, "\u1ed2\u1ed3\u1edc\u1edd\u1eea\u1eeb\u1ef2", "\u00d4\u00f4\u01a0\u01a1\u01af\u01b0Y"),
  (0x300, "\u1ef3\u1f02\u1f03\u1f0a\u1f0b\u1f12\u1f13", "y\u1f00\u1f01\u1f08\u1f09\u1f10\u1f11"),
  (0x300, "\u1f1a\u1f1b\u1f22\u1f23\u1f2a\u1f2b", "\u1f18\u1f19\u1f20\u1f21\u1f28\u1f29"),
  (0x300, "\u1f32\u1f33\u1f3a\u1f3b\u1f42\u1f43", "\u1f30\u1f31\u1f38\u1f39\u1f40\u1f41"),
  (0x300, "\u1f4a\u1f4b\u1f52\u1f53\u1f5b\u1f62", "\u1f48\u1f49\u1f50\u1f51\u1f59\u1f60"),
  (0x300, "\u1f63\u1f6a\u1f6b\u1f70\u1f72\u1f74", "\u1f61\u1f68\u1f69\u03b1\u03b5\u03b7"),
  (0x300, "\u1f76\u1f78\u1f7a\u1f7c\u1fba\u1fc8", "\u03b9\u03bf\u03c5\u03c9\u0391\u0395"),
  (0x300, "\u1fca\u1fd2\u1fda\u1fe2\u1fea\u1ff8", "\u0397\u03ca\u0399\u03cb\u03a5\u039f"),
  (0x300, "\u1ffa", "\u03a9"),
  (0x301, "\u00c1\u00c9\u00cd\u00d3\u00da\u00dd\u00e1\u00e9\u00ed\u00f3\u00fa", "AEIOUYaeiou"),
  (0x301, "\u00fd\u0106\u0107\u0139\u013a\u0143\u0144\u0154\u0155\u015a\u015b", "yCcLlNnRrSs"),
  (0x301, "\u0179\u017a\u01d7\u01d8\u01f4\u01f5\u01fa\u01fb", "Zz\u00dc\u00fcGg\u00c5\u00e5"),
  (0x301, "\u01fc\u01fd\u01fe\u01ff\u0386\u0388", "\u00c6\u00e6\u00d8\u00f8\u0391\u0395"),
  (0x301, "\u0389\u038a\u038c\u038e\u038f\u0390", "\u0397\u0399\u039f\u03a5\u03a9\u03ca"),
  (0x301, "\u03ac\u03ad\u03ae\u03af\u03b0\u03cc", "\u03b1\u03b5\u03b7\u03b9\u03cb\u03bf"),
  (0x301, "\u03cd\u03ce\u03d3\u0403\u040c\u0453", "\u03c5\u03c9\u03d2\u0413\u041a\u0433"),
  (0x301, "\u045c\u1e08\u1e09\u1e16\u1e17\u1e2e", "\u043a\u00c7\u00e7\u0112\u0113\u00cf"),
  (0x301, "\u1e2f\u1e30\u1e31\u1e3e\u1e3f\u1e4c\u1e4d\u1e52", "\u00efKkMm\u00d5\u00f5\u014c"),
  (0x301, "\u1e53\u1e54\u1e55\u1e78\u1e79\u1e82\u1e83\u1ea4", "\u014dPp\u0168\u0169Ww\u00c2"),
  (0x301, "\u1ea5\u1eae\u1eaf\u1ebe\u1ebf\u1ed0", "\u00e2\u0102\u0103\u00ca\u00ea\u00d4"),
  (0x301, "\u1ed1\u1eda\u1edb\u1ee8\u1ee9\u1f04", "\u00f4\u01a0\u01a1\u01af\u01b0\u1f00"),
  (0x301, "\u1f05\u1f0c\u1f0d\u1f14\u1f15\u1f1c", "\u1f01\u1f08\u1f09\u1f10\u1f11\u1f18"),
  (0x301, "\u1f1d\u1f24\u1f25\u1f2c\u1f2d\u1f34", "\u1f19\u1f20\u1f21\u1f28\u1f29\u1f30"),
  (0x301, "\u1f35\u1f3c\u1f3d\u1f44\u1f45\u1f4c", "\u1f31\u1f38\u1f39\u1f40\u1f41\u1f48"),
  (0x301, "\u1f4d\u1f54\u1f55\u1f5d\u1f64\u1f65", "\u1f49\u1f50\u1f51\u1f59\u1f60\u1f61"),
  (0x301, "\u1f6c\u1f6d", "\u1f68\u1f69"),
  (0x302, "\u00c2\u00ca\u00ce\u00d4\u00db\u00e2\u00ea\u00ee\u00f4\u00fb\u0108", "AEIOUaeiouC"),
  (0x302, "\u0109\u011c\u011d\u0124\u0125\u0134\u0135\u015c\u015d\u0174\u0175", "cGgHhJjSsWw"),
  (0x302, "\u0176\u0177\u1e90\u1e91\u1eac\u1ead\u1ec6\u1ec7", "YyZz\u1ea0\u1ea1\u1eb8\u1eb9"),
  (0x302, "\u1ed8\u1ed9", "\u1ecc\u1ecd"),
  (0x303, "\u00c3\u00d1\u00d5\u00e3\u00f1\u00f5\u0128\u0129\u0168\u0169\u1e7c", "ANOanoIiUuV"),
  (0x303, "\u1e7d\u1eaa\u1eab\u1eb4\u1eb5\u1ebc\u1ebd", "v\u00c2\u00e2\u0102\u0103Ee"),
  (0x303, "\u1ec4\u1ec5\u1ed6\u1ed7\u1ee0\u1ee1", "\u00ca\u00ea\u00d4\u00f4\u01a0\u01a1"),
  (0x303, "\u1eee\u1eef\u1ef8\u1ef9", "\u01af\u01b0Yy"),
  (0x304, "\u0100\u0101\u0112\u0113\u012a\u012b\u014c\u014d\u016a\u016b", "AaEeIiOoUu"),
  (0x304, "\u01d5\u01d6\u01de\u01df\u01e0\u01e1", "\u00dc\u00fc\u00c4\u00e4\u0226\u0227"),
  (0x304, "\u01e2\u01e3\u01ec\u01ed\u022a\u022b", "\u00c6\u00e6\u01ea\u01eb\u00d6\u00f6"),
  (0x304, "\u022c\u022d\u0230\u0231\u0232\u0233\u04e2", "\u00d5\u00f5\u022e\u022fYy\u0418"),
  (0x304, "\u04e3\u04ee\u04ef\u1e20\u1e21\u1e38\u1e39", "\u0438\u0423\u0443Gg\u1e36\u1e37"),
  (0x304, "\u1e5c\u1e5d\u1fb1\u1fb9\u1fd1\u1fd9", "\u1e5a\u1e5b\u03b1\u0391\u03b9\u0399"),
  (0x304, "\u1fe1\u1fe9", "\u03c5\u03a5"),
  (0x306, "\u0102\u0103\u0114\u0115\u011e\u011f\u012c\u012d\u014e\u014f\u016c", "AaEeGgIiOoU"),
  (0x306, "\u016d\u040e\u0419\u0439\u045e\u04c1\u04c2", "u\u0423\u0418\u0438\u0443\u0416\u0436"),
  (0x306, "\u04d0\u04d1\u04d6\u04d7\u1e1c\u1e1d", "\u0410\u0430\u0415\u0435\u0228\u0229"),
  (0x306, "\u1eb6\u1eb7\u1fb0\u1fb8\u1fd0\u1fd8", "\u1ea0\u1ea1\u03b1\u0391\u03b9\u0399"),
  (0x306, "\u1fe0\u1fe8", "\u03c5\u03a5"),
  (0x307, "\u010a\u010b\u0116\u0117\u0120\u0121\u0130\u017b\u017c\u0226\u0227", "CcEeGgIZzAa"),
  (0x307, "\u022e\u022f\u1e02\u1e03\u1e0a\u1e0b\u1e1e\u1e1f\u1e22\u1e23\u1e40", "OoBbDdFfHhM"),
  (0x307, "\u1e41\u1e44\u1e45\u1e56\u1e57\u1e58\u1e59\u1e60\u1e61\u1e64", "mNnPpRrSs\u015a"),
  (0x307, "\u1e65\u1e66\u1e67\u1e68\u1e69\u1e6a\u1e6b", "\u015b\u0160\u0161\u1e62\u1e63Tt"),
  (0x307, "\u1e86\u1e87\u1e8a\u1e8b\u1e8e\u1e8f\u1e9b", "WwXxYy\u017f"),
  (0x308, "\u00c4\u00cb\u00cf\u00d6\u00dc\u00e4\u00eb\u00ef\u00f6\u00fc\u00ff", "AEIOUaeiouy"),
  (0x308, "\u0178\u03aa\u03ab\u03ca\u03cb\u03d4\u0401", "Y\u0399\u03a5\u03b9\u03c5\u03d2\u0415"),
  (0x308, "\u0407\u0451\u0457\u04d2\u04d3\u04da", "\u0406\u0435\u0456\u0410\u0430\u04d8"),
  (0x308, "\u04db\u04dc\u04dd\u04de\u04df\u04e4", "\u04d9\u0416\u0436\u0417\u0437\u0418"),
  (0x308, "\u04e5\u04e6\u04e7\u04ea\u04eb\u04ec", "\u0438\u041e\u043e\u04e8\u04e9\u042d"),
  (0x308, "\u04ed\u04f0\u04f1\u04f4\u04f5\u04f8", "\u044d\u0423\u0443\u0427\u0447\u042b"),
  (0x308, "\u04f9\u1e26\u1e27\u1e4e\u1e4f\u1e7a\u1e7b", "\u044bHh\u00d5\u00f5\u016a\u016b"),
  (0x308, "\u1e84\u1e85\u1e8c\u1e8d\u1e97", "WwXxt"),
  (0x309, "\u1ea2\u1ea3\u1ea8\u1ea9\u1eb2\u1eb3\u1eba\u1ebb", "Aa\u00c2\u00e2\u0102\u0103Ee"),
  (0x309, "\u1ec2\u1ec3\u1ec8\u1ec9\u1ece\u1ecf\u1ed4\u1ed5", "\u00ca\u00eaIiOo\u00d4\u00f4"),
  (0x309, "\u1ede\u1edf\u1ee6\u1ee7\u1eec\u1eed\u1ef6\u1ef7", "\u01a0\u01a1Uu\u01af\u01b0Yy"),
  (0x30a, "\u00c5\u00e5\u016e\u016f\u1e98\u1e99", "AaUuwy"),
  (0x30b, "\u0150\u0151\u0170\u0171\u04f2\u04f3", "OoUu\u0423\u0443"),
  (0x30c, "\u010c\u010d\u010e\u010f\u011a\u011b\u013d\u013e\u0147\u0148\u0158", "CcDdEeLlNnR"),
  (0x30c, "\u0159\u0160\u0161\u0164\u0165\u017d\u017e\u01cd\u01ce\u01cf\u01d0", "rSsTtZzAaIi"),
  (0x30c, "\u01d1\u01d2\u01d3\u01d4\u01d9\u01da\u01e6\u01e7\u01e8\u01e9", "OoUu\u00dc\u00fcGgKk"),
  (0x30c, "\u01ee\u01ef\u01f0\u021e\u021f", "\u01b7\u0292jHh"),
  (0x30f, "\u0200\u0201\u0204\u0205\u0208\u0209\u020c\u020d\u0210\u0211\u0214", "AaEeIiOoRrU"),
  (0x30f, "\u0215\u0476\u0477", "u\u0474\u0475"),
  (0x311, "\u0202\u0203\u0206\u0207\u020a\u020b\u020e\u020f\u0212\u0213\u0216", "AaEeIiOoRrU"),
  (0x311, "\u0217", "u"),
  (0x313, "\u1f00\u1f08\u1f10\u1f18\u1f20\u1f28", "\u03b1\u0391\u03b5\u0395\u03b7\u0397"),
  (0x313, "\u1f30\u1f38\u1f40\u1f48\u1f50\u1f60", "\u03b9\u0399\u03bf\u039f\u03c5\u03c9"),
  (0x313, "\u1f68\u1fe4", "\u03a9\u03c1"),
  (0x314, "\u1f01\u1f09\u1f11\u1f19\u1f21\u1f29", "\u03b1\u0391\u03b5\u0395\u03b7\u0397"),
  (0x314, "\u1f31\u1f39\u1f41\u1f49\u1f51\u1f59", "\u03b9\u0399\u03bf\u039f\u03c5\u03a5"),
  (0x314, "\u1f61\u1f69\u1fe5\u1fec", "\u03c9\u03a9\u03c1\u03a1"),
  (0x31b, "\u01a0\u01a1\u01af\u01b0", "OoUu"),
  (0x323, "\u1e04\u1e05\u1e0c\u1e0d\u1e24\u1e25\u1e32\u1e33\u1e36\u1e37\u1e42", "BbDdHhKkLlM"),
  (0x323, "\u1e43\u1e46\u1e47\u1e5a\u1e5b\u1e62\u1e63\u1e6c\u1e6d\u1e7e\u1e7f", "mNnRrSsTtVv"),
  (0x323, "\u1e88\u1e89\u1e92\u1e93\u1ea0\u1ea1\u1eb8\u1eb9\u1eca\u1ecb\u1ecc", "WwZzAaEeIiO"),
  (0x323, "\u1ecd\u1ee2\u1ee3\u1ee4\u1ee5\u1ef0\u1ef1\u1ef4", "o\u01a0\u01a1Uu\u01af\u01b0Y"),
  (0x323, "\u1ef5", "y"), (0x324, "\u1e72\u1e73", "Uu"), (0x325, "\u1e00\u1e01", "Aa"),
  (0x326, "\u0218\u0219\u021a\u021b", "SsTt"),
  (0x327, "\u00c7\u00e7\u0122\u0123\u0136\u0137\u013b\u013c\u0145\u0146\u0156", "CcGgKkLlNnR"),
  (0x327, "\u0157\u015e\u015f\u0162\u0163\u0228\u0229\u1e10\u1e11\u1e28\u1e29", "rSsTtEeDdHh"),
  (0x328, "\u0104\u0105\u0118\u0119\u012e\u012f\u0172\u0173\u01ea\u01eb", "AaEeIiUuOo"),
  (0x32d, "\u1e12\u1e13\u1e18\u1e19\u1e3c\u1e3d\u1e4a\u1e4b\u1e70\u1e71\u1e76", "DdEeLlNnTtU"),
  (0x32d, "\u1e77", "u"), (0x32e, "\u1e2a\u1e2b", "Hh"),
  (0x330, "\u1e1a\u1e1b\u1e2c\u1e2d\u1e74\u1e75", "EeIiUu"),
  (0x331, "\u1e06\u1e07\u1e0e\u1e0f\u1e34\u1e35\u1e3a\u1e3b\u1e48\u1e49\u1e5e", "BbDdKkLlNnR"),
  (0x331, "\u1e5f\u1e6e\u1e6f\u1e94\u1e95\u1e96", "rTtZzh"),
  (0x342, "\u1f06\u1f07\u1f0e\u1f0f\u1f26\u1f27", "\u1f00\u1f01\u1f08\u1f09\u1f20\u1f21"),
  (0x342, "\u1f2e\u1f2f\u1f36\u1f37\u1f3e\u1f3f", "\u1f28\u1f29\u1f30\u1f31\u1f38\u1f39"),
  (0x342, "\u1f56\u1f57\u1f5f\u1f66\u1f67\u1f6e", "\u1f50\u1f51\u1f59\u1f60\u1f61\u1f68"),
  (0x342, "\u1f6f\u1fb6\u1fc6\u1fd6\u1fd7\u1fe6", "\u1f69\u03b1\u03b7\u03b9\u03ca\u03c5"),
  (0x342, "\u1fe7\u1ff6", "\u03cb\u03c9"),
  (0x345, "\u1f80\u1f81\u1f82\u1f83\u1f84\u1f85", "\u1f00\u1f01\u1f02\u1f03\u1f04\u1f05"),
  (0x345, "\u1f86\u1f87\u1f88\u1f89\u1f8a\u1f8b", "\u1f06\u1f07\u1f08\u1f09\u1f0a\u1f0b"),
  (0x345, "\u1f8c\u1f8d\u1f8e\u1f8f\u1f90\u1f91", "\u1f0c\u1f0d\u1f0e\u1f0f\u1f20\u1f21"),
  (0x345, "\u1f92\u1f93\u1f94\u1f95\u1f96\u1f97", "\u1f22\u1f23\u1f24\u1f25\u1f26\u1f27"),
  (0x345, "\u1f98\u1f99\u1f9a\u1f9b\u1f9c\u1f9d", "\u1f28\u1f29\u1f2a\u1f2b\u1f2c\u1f2d"),
  (0x345, "\u1f9e\u1f9f\u1fa0\u1fa1\u1fa2\u1fa3", "\u1f2e\u1f2f\u1f60\u1f61\u1f62\u1f63"),
  (0x345, "\u1fa4\u1fa5\u1fa6\u1fa7\u1fa8\u1fa9", "\u1f64\u1f65\u1f66\u1f67\u1f68\u1f69"),
  (0x345, "\u1faa\u1fab\u1fac\u1fad\u1fae\u1faf", "\u1f6a\u1f6b\u1f6c\u1f6d\u1f6e\u1f6f"),
  (0x345, "\u1fb2\u1fb3\u1fb4\u1fb7\u1fbc\u1fc2", "\u1f70\u03b1\u03ac\u1fb6\u0391\u1f74"),
  (0x345, "\u1fc3\u1fc4\u1fc7\u1fcc\u1ff2\u1ff3", "\u03b7\u03ae\u1fc6\u0397\u1f7c\u03c9"),
  (0x345, "\u1ff4\u1ff7\u1ffc", "\u03ce\u1ff6\u03a9"), (0x653, "\u0622", "\u0627"),
  (0x654, "\u0623\u0624\u0626\u06c0\u06c2\u06d3", "\u0627\u0648\u064a\u06d5\u06c1\u06d2"),
  (0x655, "\u0625", "\u0627"), (0x93c, "\u0929\u0931\u0934", "\u0928\u0930\u0933"),
  (0x9be, "\u09cb", "\u09c7"), (0x9d7, "\u09cc", "\u09c7"), (0xb3e, "\u0b4b", "\u0b47"),
  (0xb56, "\u0b48", "\u0b47"), (0xb57, "\u0b4c", "\u0b47"),
  (0xbbe, "\u0bca\u0bcb", "\u0bc6\u0bc7"), (0xbd7, "\u0b94\u0bcc", "\u0b92\u0bc6"),
  (0xc56, "\u0c48", "\u0c46"), (0xcc2, "\u0cca", "\u0cc6"),
  (0xcd5, "\u0cc0\u0cc7\u0ccb", "\u0cbf\u0cc6\u0cca"), (0xcd6, "\u0cc8", "\u0cc6"),
  (0xd3e, "\u0d4a\u0d4b", "\u0d46\u0d47"), (0xd57, "\u0d4c", "\u0d46"),
  (0xdca, "\u0dda\u0ddd", "\u0dd9\u0ddc"), (0xdcf, "\u0ddc", "\u0dd9"),
  (0xddf, "\u0dde", "\u0dd9"), (0x102e, "\u1026", "\u1025"),
  (0x1b35, "\u1b06\u1b08\u1b0a\u1b0c\u1b0e\u1b12", "\u1b05\u1b07\u1b09\u1b0b\u1b0d\u1b11"),
  (0x1b35, "\u1b3b\u1b3d\u1b40\u1b41\u1b43", "\u1b3a\u1b3c\u1b3e\u1b3f\u1b42"),
  (0x3099, "\u304c\u304e\u3050\u3052\u3054\u3056", "\u304b\u304d\u304f\u3051\u3053\u3055"),
  (0x3099, "\u3058\u305a\u305c\u305e\u3060\u3062", "\u3057\u3059\u305b\u305d\u305f\u3061"),
  (0x3099, "\u3065\u3067\u3069\u3070\u3073\u3076", "\u3064\u3066\u3068\u306f\u3072\u3075"),
  (0x3099, "\u3079\u307c\u3094\u309e\u30ac\u30ae", "\u3078\u307b\u3046\u309d\u30ab\u30ad"),
  (0x3099, "\u30b0\u30b2\u30b4\u30b6\u30b8\u30ba", "\u30af\u30b1\u30b3\u30b5\u30b7\u30b9"),
  (0x3099, "\u30bc\u30be\u30c0\u30c2\u30c5\u30c7", "\u30bb\u30bd\u30bf\u30c1\u30c4\u30c6"),
  (0x3099, "\u30c9\u30d0\u30d3\u30d6\u30d9\u30dc", "\u30c8\u30cf\u30d2\u30d5\u30d8\u30db"),
  (0x3099, "\u30f4\u30f7\u30f8\u30f9\u30fa\u30fe", "\u30a6\u30ef\u30f0\u30f1\u30f2\u30fd"),
  (0x309a, "\u3071\u3074\u3077\u307a\u307d\u30d1", "\u306f\u3072\u3075\u3078\u307b\u30cf"),
  (0x309a, "\u30d4\u30d7\u30da\u30dd", "\u30d2\u30d5\u30d8\u30db"), (0x110ba, "𑂚𑂜𑂫", "𑂙𑂛𑂥"),
  (0x11127, "𑄮𑄯", "𑄱𑄲"), (0x1133e, "𑍋", "𑍇"), (0x11357, "𑍌", "𑍇"), (0x114b0, "𑒼", "𑒹"),
  (0x114ba, "𑒻", "𑒹"), (0x114bd, "𑒾", "𑒹"), (0x115af, "𑖺𑖻", "𑖸𑖹"), (0x11930, "𑤸", "𑤵")]

/-- The classes that order the marks after a letter: first and last character, and class. -/
def markClasses : List (Nat × Nat × Nat) := [
  (0x300, 0x314, 230), (0x315, 0x315, 232), (0x316, 0x319, 220), (0x31a, 0x31a, 232),
  (0x31b, 0x31b, 216), (0x31c, 0x320, 220), (0x321, 0x322, 202), (0x323, 0x326, 220),
  (0x327, 0x328, 202), (0x329, 0x333, 220), (0x334, 0x338, 1), (0x339, 0x33c, 220),
  (0x33d, 0x344, 230), (0x345, 0x345, 240), (0x346, 0x346, 230), (0x347, 0x349, 220),
  (0x34a, 0x34c, 230), (0x34d, 0x34e, 220), (0x350, 0x352, 230), (0x353, 0x356, 220),
  (0x357, 0x357, 230), (0x358, 0x358, 232), (0x359, 0x35a, 220), (0x35b, 0x35b, 230),
  (0x35c, 0x35c, 233), (0x35d, 0x35e, 234), (0x35f, 0x35f, 233), (0x360, 0x361, 234),
  (0x362, 0x362, 233), (0x363, 0x36f, 230), (0x483, 0x487, 230), (0x591, 0x591, 220),
  (0x592, 0x595, 230), (0x596, 0x596, 220), (0x597, 0x599, 230), (0x59a, 0x59a, 222),
  (0x59b, 0x59b, 220), (0x59c, 0x5a1, 230), (0x5a2, 0x5a7, 220), (0x5a8, 0x5a9, 230),
  (0x5aa, 0x5aa, 220), (0x5ab, 0x5ac, 230), (0x5ad, 0x5ad, 222), (0x5ae, 0x5ae, 228),
  (0x5af, 0x5af, 230), (0x5b0, 0x5b0, 10), (0x5b1, 0x5b1, 11), (0x5b2, 0x5b2, 12),
  (0x5b3, 0x5b3, 13), (0x5b4, 0x5b4, 14), (0x5b5, 0x5b5, 15), (0x5b6, 0x5b6, 16),
  (0x5b7, 0x5b7, 17), (0x5b8, 0x5b8, 18), (0x5b9, 0x5ba, 19), (0x5bb, 0x5bb, 20),
  (0x5bc, 0x5bc, 21), (0x5bd, 0x5bd, 22), (0x5bf, 0x5bf, 23), (0x5c1, 0x5c1, 24),
  (0x5c2, 0x5c2, 25), (0x5c4, 0x5c4, 230), (0x5c5, 0x5c5, 220), (0x5c7, 0x5c7, 18),
  (0x610, 0x617, 230), (0x618, 0x618, 30), (0x619, 0x619, 31), (0x61a, 0x61a, 32),
  (0x64b, 0x64b, 27), (0x64c, 0x64c, 28), (0x64d, 0x64d, 29), (0x64e, 0x64e, 30),
  (0x64f, 0x64f, 31), (0x650, 0x650, 32), (0x651, 0x651, 33), (0x652, 0x652, 34),
  (0x653, 0x654, 230), (0x655, 0x656, 220), (0x657, 0x65b, 230), (0x65c, 0x65c, 220),
  (0x65d, 0x65e, 230), (0x65f, 0x65f, 220), (0x670, 0x670, 35), (0x6d6, 0x6dc, 230),
  (0x6df, 0x6e2, 230), (0x6e3, 0x6e3, 220), (0x6e4, 0x6e4, 230), (0x6e7, 0x6e8, 230),
  (0x6ea, 0x6ea, 220), (0x6eb, 0x6ec, 230), (0x6ed, 0x6ed, 220), (0x711, 0x711, 36),
  (0x730, 0x730, 230), (0x731, 0x731, 220), (0x732, 0x733, 230), (0x734, 0x734, 220),
  (0x735, 0x736, 230), (0x737, 0x739, 220), (0x73a, 0x73a, 230), (0x73b, 0x73c, 220),
  (0x73d, 0x73d, 230), (0x73e, 0x73e, 220), (0x73f, 0x741, 230), (0x742, 0x742, 220),
  (0x743, 0x743, 230), (0x744, 0x744, 220), (0x745, 0x745, 230), (0x746, 0x746, 220),
  (0x747, 0x747, 230), (0x748, 0x748, 220), (0x749, 0x74a, 230), (0x7eb, 0x7f1, 230),
  (0x7f2, 0x7f2, 220), (0x7f3, 0x7f3, 230), (0x7fd, 0x7fd, 220), (0x816, 0x819, 230),
  (0x81b, 0x823, 230), (0x825, 0x827, 230), (0x829, 0x82d, 230), (0x859, 0x85b, 220),
  (0x898, 0x898, 230), (0x899, 0x89b, 220), (0x89c, 0x89f, 230), (0x8ca, 0x8ce, 230),
  (0x8cf, 0x8d3, 220), (0x8d4, 0x8e1, 230), (0x8e3, 0x8e3, 220), (0x8e4, 0x8e5, 230),
  (0x8e6, 0x8e6, 220), (0x8e7, 0x8e8, 230), (0x8e9, 0x8e9, 220), (0x8ea, 0x8ec, 230),
  (0x8ed, 0x8ef, 220), (0x8f0, 0x8f0, 27), (0x8f1, 0x8f1, 28), (0x8f2, 0x8f2, 29),
  (0x8f3, 0x8f5, 230), (0x8f6, 0x8f6, 220), (0x8f7, 0x8f8, 230), (0x8f9, 0x8fa, 220),
  (0x8fb, 0x8ff, 230), (0x93c, 0x93c, 7), (0x94d, 0x94d, 9), (0x951, 0x951, 230),
  (0x952, 0x952, 220), (0x953, 0x954, 230), (0x9bc, 0x9bc, 7), (0x9cd, 0x9cd, 9),
  (0x9fe, 0x9fe, 230), (0xa3c, 0xa3c, 7), (0xa4d, 0xa4d, 9), (0xabc, 0xabc, 7), (0xacd, 0xacd, 9),
  (0xb3c, 0xb3c, 7), (0xb4d, 0xb4d, 9), (0xbcd, 0xbcd, 9), (0xc3c, 0xc3c, 7), (0xc4d, 0xc4d, 9),
  (0xc55, 0xc55, 84), (0xc56, 0xc56, 91), (0xcbc, 0xcbc, 7), (0xccd, 0xccd, 9), (0xd3b, 0xd3c, 9),
  (0xd4d, 0xd4d, 9), (0xdca, 0xdca, 9), (0xe38, 0xe39, 103), (0xe3a, 0xe3a, 9),
  (0xe48, 0xe4b, 107), (0xeb8, 0xeb9, 118), (0xeba, 0xeba, 9), (0xec8, 0xecb, 122),
  (0xf18, 0xf19, 220), (0xf35, 0xf35, 220), (0xf37, 0xf37, 220), (0xf39, 0xf39, 216),
  (0xf71, 0xf71, 129), (0xf72, 0xf72, 130), (0xf74, 0xf74, 132), (0xf7a, 0xf7d, 130),
  (0xf80, 0xf80, 130), (0xf82, 0xf83, 230), (0xf84, 0xf84, 9), (0xf86, 0xf87, 230),
  (0xfc6, 0xfc6, 220), (0x1037, 0x1037, 7), (0x1039, 0x103a, 9), (0x108d, 0x108d, 220),
  (0x135d, 0x135f, 230), (0x1714, 0x1715, 9), (0x1734, 0x1734, 9), (0x17d2, 0x17d2, 9),
  (0x17dd, 0x17dd, 230), (0x18a9, 0x18a9, 228), (0x1939, 0x1939, 222), (0x193a, 0x193a, 230),
  (0x193b, 0x193b, 220), (0x1a17, 0x1a17, 230), (0x1a18, 0x1a18, 220), (0x1a60, 0x1a60, 9),
  (0x1a75, 0x1a7c, 230), (0x1a7f, 0x1a7f, 220), (0x1ab0, 0x1ab4, 230), (0x1ab5, 0x1aba, 220),
  (0x1abb, 0x1abc, 230), (0x1abd, 0x1abd, 220), (0x1abf, 0x1ac0, 220), (0x1ac1, 0x1ac2, 230),
  (0x1ac3, 0x1ac4, 220), (0x1ac5, 0x1ac9, 230), (0x1aca, 0x1aca, 220), (0x1acb, 0x1ace, 230),
  (0x1b34, 0x1b34, 7), (0x1b44, 0x1b44, 9), (0x1b6b, 0x1b6b, 230), (0x1b6c, 0x1b6c, 220),
  (0x1b6d, 0x1b73, 230), (0x1baa, 0x1bab, 9), (0x1be6, 0x1be6, 7), (0x1bf2, 0x1bf3, 9),
  (0x1c37, 0x1c37, 7), (0x1cd0, 0x1cd2, 230), (0x1cd4, 0x1cd4, 1), (0x1cd5, 0x1cd9, 220),
  (0x1cda, 0x1cdb, 230), (0x1cdc, 0x1cdf, 220), (0x1ce0, 0x1ce0, 230), (0x1ce2, 0x1ce8, 1),
  (0x1ced, 0x1ced, 220), (0x1cf4, 0x1cf4, 230), (0x1cf8, 0x1cf9, 230), (0x1dc0, 0x1dc1, 230),
  (0x1dc2, 0x1dc2, 220), (0x1dc3, 0x1dc9, 230), (0x1dca, 0x1dca, 220), (0x1dcb, 0x1dcc, 230),
  (0x1dcd, 0x1dcd, 234), (0x1dce, 0x1dce, 214), (0x1dcf, 0x1dcf, 220), (0x1dd0, 0x1dd0, 202),
  (0x1dd1, 0x1df5, 230), (0x1df6, 0x1df6, 232), (0x1df7, 0x1df8, 228), (0x1df9, 0x1df9, 220),
  (0x1dfa, 0x1dfa, 218), (0x1dfb, 0x1dfb, 230), (0x1dfc, 0x1dfc, 233), (0x1dfd, 0x1dfd, 220),
  (0x1dfe, 0x1dfe, 230), (0x1dff, 0x1dff, 220), (0x20d0, 0x20d1, 230), (0x20d2, 0x20d3, 1),
  (0x20d4, 0x20d7, 230), (0x20d8, 0x20da, 1), (0x20db, 0x20dc, 230), (0x20e1, 0x20e1, 230),
  (0x20e5, 0x20e6, 1), (0x20e7, 0x20e7, 230), (0x20e8, 0x20e8, 220), (0x20e9, 0x20e9, 230),
  (0x20ea, 0x20eb, 1), (0x20ec, 0x20ef, 220), (0x20f0, 0x20f0, 230), (0x2cef, 0x2cf1, 230),
  (0x2d7f, 0x2d7f, 9), (0x2de0, 0x2dff, 230), (0x302a, 0x302a, 218), (0x302b, 0x302b, 228),
  (0x302c, 0x302c, 232), (0x302d, 0x302d, 222), (0x302e, 0x302f, 224), (0x3099, 0x309a, 8),
  (0xa66f, 0xa66f, 230), (0xa674, 0xa67d, 230), (0xa69e, 0xa69f, 230), (0xa6f0, 0xa6f1, 230),
  (0xa806, 0xa806, 9), (0xa82c, 0xa82c, 9), (0xa8c4, 0xa8c4, 9), (0xa8e0, 0xa8f1, 230),
  (0xa92b, 0xa92d, 220), (0xa953, 0xa953, 9), (0xa9b3, 0xa9b3, 7), (0xa9c0, 0xa9c0, 9),
  (0xaab0, 0xaab0, 230), (0xaab2, 0xaab3, 230), (0xaab4, 0xaab4, 220), (0xaab7, 0xaab8, 230),
  (0xaabe, 0xaabf, 230), (0xaac1, 0xaac1, 230), (0xaaf6, 0xaaf6, 9), (0xabed, 0xabed, 9),
  (0xfb1e, 0xfb1e, 26), (0xfe20, 0xfe26, 230), (0xfe27, 0xfe2d, 220), (0xfe2e, 0xfe2f, 230),
  (0x101fd, 0x101fd, 220), (0x102e0, 0x102e0, 220), (0x10376, 0x1037a, 230),
  (0x10a0d, 0x10a0d, 220), (0x10a0f, 0x10a0f, 230), (0x10a38, 0x10a38, 230), (0x10a39, 0x10a39, 1),
  (0x10a3a, 0x10a3a, 220), (0x10a3f, 0x10a3f, 9), (0x10ae5, 0x10ae5, 230), (0x10ae6, 0x10ae6, 220),
  (0x10d24, 0x10d27, 230), (0x10eab, 0x10eac, 230), (0x10f46, 0x10f47, 220),
  (0x10f48, 0x10f4a, 230), (0x10f4b, 0x10f4b, 220), (0x10f4c, 0x10f4c, 230),
  (0x10f4d, 0x10f50, 220), (0x10f82, 0x10f82, 230), (0x10f83, 0x10f83, 220),
  (0x10f84, 0x10f84, 230), (0x10f85, 0x10f85, 220), (0x11046, 0x11046, 9), (0x11070, 0x11070, 9),
  (0x1107f, 0x1107f, 9), (0x110b9, 0x110b9, 9), (0x110ba, 0x110ba, 7), (0x11100, 0x11102, 230),
  (0x11133, 0x11134, 9), (0x11173, 0x11173, 7), (0x111c0, 0x111c0, 9), (0x111ca, 0x111ca, 7),
  (0x11235, 0x11235, 9), (0x11236, 0x11236, 7), (0x112e9, 0x112e9, 7), (0x112ea, 0x112ea, 9),
  (0x1133b, 0x1133c, 7), (0x1134d, 0x1134d, 9), (0x11366, 0x1136c, 230), (0x11370, 0x11374, 230),
  (0x11442, 0x11442, 9), (0x11446, 0x11446, 7), (0x1145e, 0x1145e, 230), (0x114c2, 0x114c2, 9),
  (0x114c3, 0x114c3, 7), (0x115bf, 0x115bf, 9), (0x115c0, 0x115c0, 7), (0x1163f, 0x1163f, 9),
  (0x116b6, 0x116b6, 9), (0x116b7, 0x116b7, 7), (0x1172b, 0x1172b, 9), (0x11839, 0x11839, 9),
  (0x1183a, 0x1183a, 7), (0x1193d, 0x1193e, 9), (0x11943, 0x11943, 7), (0x119e0, 0x119e0, 9),
  (0x11a34, 0x11a34, 9), (0x11a47, 0x11a47, 9), (0x11a99, 0x11a99, 9), (0x11c3f, 0x11c3f, 9),
  (0x11d42, 0x11d42, 7), (0x11d44, 0x11d45, 9), (0x11d97, 0x11d97, 9), (0x16af0, 0x16af4, 1),
  (0x16b30, 0x16b36, 230), (0x16ff0, 0x16ff1, 6), (0x1bc9e, 0x1bc9e, 1), (0x1d165, 0x1d166, 216),
  (0x1d167, 0x1d169, 1), (0x1d16d, 0x1d16d, 226), (0x1d16e, 0x1d172, 216), (0x1d17b, 0x1d182, 220),
  (0x1d185, 0x1d189, 230), (0x1d18a, 0x1d18b, 220), (0x1d1aa, 0x1d1ad, 230),
  (0x1d242, 0x1d244, 230), (0x1e000, 0x1e006, 230), (0x1e008, 0x1e018, 230),
  (0x1e01b, 0x1e021, 230), (0x1e023, 0x1e024, 230), (0x1e026, 0x1e02a, 230),
  (0x1e130, 0x1e136, 230), (0x1e2ae, 0x1e2ae, 230), (0x1e2ec, 0x1e2ef, 230),
  (0x1e8d0, 0x1e8d6, 220), (0x1e944, 0x1e949, 230), (0x1e94a, 0x1e94a, 7)]

end ApiAccord.Text
