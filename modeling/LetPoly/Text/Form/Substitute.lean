/-!
# Substitutes of characters

Some characters are other characters in another shape: letters in a mathematical style, in full or
half width, raised or lowered, joined to a ligature, or kept a second time for the sake of older
collections. Their substitutes are the plain characters. The table holds the characters of
identifiers that have one. A row is for characters in a row, each of which has as many characters
of the text for its substitute as the row says.
-/

namespace LetPoly.Text

/-- The first character of a row, the length of each substitute, and the substitutes one after the
other. -/
def substitutes : List (Nat × Nat × String) :=
  [(0xAA, 1, "a"), (0xB5, 1, "μ"), (0xBA, 1, "o"), (0x132, 2, "IJij"), (0x13F, 2, "L·l·"),
   (0x149, 2, "ʼn"), (0x17F, 1, "s"), (0x1C4, 3, "DŽDždž"), (0x1C7, 2, "LJLjljNJNjnj"),
   (0x1F1, 2, "DZDzdz"), (0x2B0, 1, "hɦjrɹɻʁwy"), (0x2E0, 1, "ɣlsxʕ"), (0x340, 1, "̀́"),
   (0x343, 1, "̓"), (0x344, 2, "̈́"), (0x374, 1, "ʹ"), (0x387, 1, "·"), (0x3D0, 1, "βθΥ"),
   (0x3D5, 1, "φπ"), (0x3F0, 1, "κρς"), (0x3F4, 1, "Θε"), (0x3F9, 1, "Σ"), (0x587, 2, "եւ"),
   (0x675, 2, "اٴوٴۇٴيٴ"), (0x958, 2, "क़ख़ग़ज़ड़ढ़फ़य़"), (0x9DC, 2, "ড়ঢ়"), (0x9DF, 2, "য়"),
   (0xA33, 2, "ਲ਼"), (0xA36, 2, "ਸ਼"), (0xA59, 2, "ਖ਼ਗ਼ਜ਼"), (0xA5E, 2, "ਫ਼"), (0xB5C, 2, "ଡ଼ଢ଼"),
   (0xE33, 2, "ํา"), (0xEB3, 2, "ໍາ"), (0xEDC, 2, "ຫນຫມ"), (0xF43, 2, "གྷ"), (0xF4D, 2, "ཌྷ"),
   (0xF52, 2, "དྷ"), (0xF57, 2, "བྷ"), (0xF5C, 2, "ཛྷ"), (0xF69, 2, "ཀྵ"), (0xF73, 2, "ཱི"),
   (0xF75, 2, "ཱུྲྀ"), (0xF77, 3, "ྲཱྀ"), (0xF78, 2, "ླྀ"), (0xF79, 3, "ླཱྀ"), (0xF81, 2, "ཱྀ"),
   (0xF93, 2, "ྒྷ"), (0xF9D, 2, "ྜྷ"), (0xFA2, 2, "ྡྷ"), (0xFA7, 2, "ྦྷ"), (0xFAC, 2, "ྫྷ"),
   (0xFB9, 2, "ྐྵ"), (0x10FC, 1, "ნ"), (0x1D2C, 1, "AÆB"), (0x1D30, 1, "DEƎGHIJKLMN"),
   (0x1D3C, 1, "OȢPRTUWaɐɑᴂbdeəɛɜg"), (0x1D4F, 1, "kmŋoɔᴖᴗptuᴝɯvᴥβγδφχiruvβγρφχ"), (0x1D78, 1, "н"),
   (0x1D9B, 1, "ɒcɕðɜfɟɡɥɨɩɪᵻʝɭᶅʟɱɰɲɳɴɵɸʂʃƫʉʊᴜʋʌzʐʑʒθ"), (0x1E9A, 2, "aʾ"), (0x1F71, 2, "ά"),
   (0x1F73, 2, "έ"), (0x1F75, 2, "ή"), (0x1F77, 2, "ί"), (0x1F79, 2, "ό"), (0x1F7B, 2, "ύ"),
   (0x1F7D, 2, "ώ"), (0x1FBB, 2, "Ά"), (0x1FBE, 1, "ι"), (0x1FC9, 2, "Έ"), (0x1FCB, 2, "Ή"),
   (0x1FD3, 3, "ΐ"), (0x1FDB, 2, "Ί"), (0x1FE3, 3, "ΰ"), (0x1FEB, 2, "Ύ"), (0x1FF9, 2, "Ό"),
   (0x1FFB, 2, "Ώ"), (0x2071, 1, "i"), (0x207F, 1, "n"), (0x2090, 1, "aeoxəhklmnpst"),
   (0x2102, 1, "C"), (0x2107, 1, "Ɛ"), (0x210A, 1, "gHHHhħIILl"), (0x2115, 1, "N"),
   (0x2119, 1, "PQRRR"), (0x2124, 1, "Z"), (0x2126, 1, "Ω"), (0x2128, 1, "Z"), (0x212A, 1, "K"),
   (0x212B, 2, "Å"), (0x212C, 1, "BC"), (0x212F, 1, "eEF"), (0x2133, 1, "Moאבגדi"),
   (0x213C, 1, "πγΓΠ"), (0x2145, 1, "Ddeij"), (0x2160, 1, "I"), (0x2161, 2, "II"),
   (0x2162, 3, "III"), (0x2163, 2, "IV"), (0x2164, 1, "V"), (0x2165, 2, "VI"), (0x2166, 3, "VII"),
   (0x2167, 4, "VIII"), (0x2168, 2, "IX"), (0x2169, 1, "X"), (0x216A, 2, "XI"), (0x216B, 3, "XII"),
   (0x216C, 1, "LCDMi"), (0x2171, 2, "ii"), (0x2172, 3, "iii"), (0x2173, 2, "iv"), (0x2174, 1, "v"),
   (0x2175, 2, "vi"), (0x2176, 3, "vii"), (0x2177, 4, "viii"), (0x2178, 2, "ix"), (0x2179, 1, "x"),
   (0x217A, 2, "xi"), (0x217B, 3, "xii"), (0x217C, 1, "lcdm"), (0x2C7C, 1, "jV"), (0x2D6F, 1, "ⵡ"),
   (0x3038, 1, "十卄卅"), (0x309F, 2, "より"), (0x30FF, 2, "コト"),
   (0x3131, 1, "ᄀᄁᆪᄂᆬᆭᄃᄄᄅᆰᆱᆲᆳᆴᆵᄚᄆᄇᄈᄡᄉᄊᄋᄌᄍᄎᄏᄐᄑ하ᅢᅣᅤᅥᅦᅧᅨᅩᅪᅫᅬᅭᅮᅯᅰᅱᅲᅳᅴᅵᅠᄔᄕᇇᇈᇌᇎᇓᇗ"),
   (0x316D, 1, "ᇙᄜᇝᇟᄝᄞᄠᄢᄣᄧᄩᄫᄬᄭᄮᄯᄲᄶᅀᅇᅌᇱᇲᅗᅘᅙᆄᆅᆈᆑᆒᆔᆞᆡ"), (0xA69C, 1, "ъь"), (0xA770, 1, "ꝯ"),
   (0xA7F2, 1, "CFQ"), (0xA7F8, 1, "Ħœ"), (0xAB5C, 1, "ꜧꬷɫꭒ"), (0xAB69, 1, "ʍ"),
   (0xF900, 1, "豈更車賈滑串句龜龜契金喇奈懶癩羅蘿螺裸邏樂洛烙珞落酪駱亂卵欄爛蘭鸞嵐濫藍襤拉臘蠟廊朗浪狼郎來冷勞擄櫓爐盧老蘆虜路露魯鷺碌"),
   (0xF93C, 1, "祿綠菉錄鹿論壟弄籠聾牢磊賂雷壘屢樓淚漏累縷陋勒肋凜凌稜綾菱陵讀拏樂諾丹寧怒率異北磻便復不泌數索參塞省葉說殺辰沈拾若掠略亮"),
   (0xF978, 1, "兩凉梁糧良諒量勵呂女廬旅濾礪閭驪麗黎力曆歷轢年憐戀撚漣煉璉秊練聯輦蓮連鍊列劣咽烈裂說廉念捻殮簾獵令囹寧嶺怜玲瑩羚聆鈴零靈"),
   (0xF9B4, 1, "領例禮醴隸惡了僚寮尿料樂燎療蓼遼龍暈阮劉杻柳流溜琉留硫紐類六戮陸倫崙淪輪律慄栗率隆利吏履易李梨泥理痢罹裏裡里離匿溺吝燐璘"),
   (0xF9F0, 1, "藺隣鱗麟林淋臨立笠粒狀炙識什茶刺切度拓糖宅洞暴輻行降見廓兀嗀"), (0xFA10, 1, "塚"), (0xFA12, 1, "晴"),
   (0xFA15, 1, "凞猪益礼神祥福靖精羽"), (0xFA20, 1, "蘒"), (0xFA22, 1, "諸"), (0xFA25, 1, "逸都"),
   (0xFA2A, 1, "飯飼館鶴郞隷侮僧免勉勤卑喝嘆器塀墨層屮悔慨憎懲敏既暑梅海渚漢煮爫琢碑社祉祈祐祖祝禍禎穀突節練縉繁署者臭艹艹著褐視謁謹賓贈"),
   (0xFA66, 1, "辶逸難響頻恵𤋮舘"),
   (0xFA70, 1, "並况全侀充冀勇勺喝啕喙嗢塚墳奄奔婢嬨廒廙彩徭惘慎愈憎慠懲戴揄搜摒敖晴朗望杖歹殺流滛滋漢瀞煮瞧爵犯猪瑱甆画瘝瘟益盛直睊着磌"),
   (0xFAAC, 1, "窱節类絛練缾者荒華蝹襁覆視調諸請謁諾諭謹變贈輸遲醙鉶陼難靖韛響頋頻鬒龜𢡊𢡄𣏕㮝䀘䀹𥉉𥳐𧻓齃龎"), (0xFB00, 2, "fffifl"),
   (0xFB03, 3, "ffiffl"), (0xFB05, 2, "stst"), (0xFB13, 2, "մնմեմիվնմխ"), (0xFB1D, 2, "יִ"),
   (0xFB1F, 2, "ײַ"), (0xFB20, 1, "עאדהכלםרת"), (0xFB2A, 2, "שׁשׂ"), (0xFB2C, 3, "שּׁשּׂ"),
   (0xFB2E, 2, "אַאָאּבּגּדּהּוּזּ"), (0xFB38, 2, "טּיּךּכּלּ"), (0xFB3E, 2, "מּ"),
   (0xFB40, 2, "נּסּ"), (0xFB43, 2, "ףּפּ"), (0xFB46, 2, "צּקּרּשּתּוֹבֿכֿפֿאל"),
   (0xFB50, 1, "ٱٱٻٻٻٻپپپپڀڀڀڀٺٺٺٺٿٿٿٿٹٹٹٹڤڤڤڤڦڦڦڦڄڄڄڄڃڃڃڃچچچچڇڇڇڇڍڍڌڌڎڎڈڈژژ"),
   (0xFB8C, 1, "ڑڑککککگگگگڳڳڳڳڱڱڱڱںںڻڻڻڻ"), (0xFBA4, 2, "ۀۀ"), (0xFBA6, 1, "ہہہہھھھھےے"),
   (0xFBB0, 2, "ۓۓ"), (0xFBD3, 1, "ڭڭڭڭۇۇۆۆۈۈ"), (0xFBDD, 2, "ۇٴ"), (0xFBDE, 1, "ۋۋۅۅۉۉېېېېىى"),
   (0xFBEA, 3, "ئائائەئەئوئوئۇئۇئۆئۆئۈئۈئېئېئېئىئىئى"), (0xFBFC, 1, "یییی"),
   (0xFC00, 3, "ئجئحئمئىئي"),
   (0xFC05, 2, "بجبحبخبمبىبيتجتحتختمتىتيثجثمثىثيجحجمحجحمخجخحخمسجسحسخسمصحصمضج"),
   (0xFC23, 2, "ضحضخضمطحطمظمعجعمغجغمفجفحفخفمفىفيقحقمقىقيكاكجكحكخكلكمكىكيلجلح"),
   (0xFC41, 2, "لخلملىليمجمحمخمممىمينجنحنخنمنىنيهجهمهىهييجيحيخيميىييذٰرٰىٰ"),
   (0xFC64, 3, "ئرئزئمئنئىئي"),
   (0xFC6A, 2, "بربزبمبنبىبيترتزتمتنتىتيثرثزثمثنثىثيفىفيقىقيكاكلكمكىكيلملىلي"),
   (0xFC88, 2, "ماممنرنزنمنننىنيىٰيريزيمينيىيي"), (0xFC97, 3, "ئجئحئخئمئه"),
   (0xFC9C, 2, "بجبحبخبمبهتجتحتختمتهثمجحجمحجحمخجخمسجسحسخسمصحصخصمضجضحضخضمطحظم"),
   (0xFCBA, 2, "عجعمغجغمفجفحفخفمقحقمكجكحكخكلكملجلحلخلملهمجمحمخممنجنحنخنمنههج"),
   (0xFCD8, 2, "همهٰيجيحيخيميه"), (0xFCDF, 3, "ئمئه"),
   (0xFCE1, 2, "بمبهتمتهثمثهسمسهشمشهكلكملمنمنهيميه"), (0xFCF2, 3, "ـَّـُّـِّ"),
   (0xFCF5, 2, "طىطيعىعيغىغيسىسيشىشيحىحيجىجيخىخيصىصيضىضيشجشحشخشمشرسرصرضرطىطي"),
   (0xFD13, 2, "عىعيغىغيسىسيشىشيحىحيجىجيخىخيصىصيضىضيشجشحشخشمشرسرصرضرشجشحشخشم"),
   (0xFD31, 2, "سهشهطمسجسحسخشجشحشخطمظماًاً"),
   (0xFD50, 3, "تجمتحجتحجتحمتخمتمجتمحتمخجمحجمححميحمىسحجسجحسجىسمحسمحسمجسممسمم"),
   (0xFD64, 3, "صححصححصممشحمشحمشجيشمخشمخشممشممضحىضخمضخمطمحطمحطممطميعجمعممعمم"),
   (0xFD78, 3, "عمىغممغميغمىفخمفخمقمحقمملحملحيلحىلججلججلخملخملمحلمحمحجمحممحي"),
   (0xFD8C, 3, "مجحمجممخجمخم"),
   (0xFD92, 3, "مجخهمجهممنحمنحىنجمنجمنجىنمينمىيمميممبخيتجيتجىتخيتخىتميتمىجمي"),
   (0xFDA6, 3, "جحىجمىسخىصحيشحيضحيلجيلمييحييجييميمميقمينحيقمحلحمعميكمينجحمخي"),
   (0xFDBA, 3, "لجمكمملجمنجحجحيحجيمجيفميبحيكممعجمصممسخينجي"), (0xFDF0, 3, "صلےقلے"),
   (0xFDF2, 4, "اللهاكبرمحمدصلعمرسولعليهوسلم"), (0xFDF9, 3, "صلى"), (0xFE33, 1, "__"),
   (0xFE4D, 1, "___"), (0xFE71, 2, "ـً"), (0xFE77, 2, "ـَ"), (0xFE79, 2, "ـُ"), (0xFE7B, 2, "ـِ"),
   (0xFE7D, 2, "ـّ"), (0xFE7F, 2, "ـْ"), (0xFE80, 1, "ء"), (0xFE81, 2, "آآأأؤؤإإئئئئ"),
   (0xFE8D, 1, "ااببببةةتتتتثثثثججججححححخخخخددذذررززسسسسششششصصصصضضضضططططظظظظ"),
   (0xFEC9, 1, "ععععغغغغففففققققككككللللممممننننههههووىىيييي"), (0xFEF5, 3, "لآلآلألألإلإ"),
   (0xFEFB, 2, "لالا"), (0xFF10, 1, "0123456789"), (0xFF21, 1, "ABCDEFGHIJKLMNOPQRSTUVWXYZ"),
   (0xFF3F, 1, "_"), (0xFF41, 1, "abcdefghijklmnopqrstuvwxyz"),
   (0xFF66, 1, "ヲァィゥェォャュョッーアイウエオカキクケコサシスセソタチツテトナニヌネノハヒフヘホマミムメモヤユヨラリルレロワン゙゚ᅠᄀ"),
   (0xFFA2, 1, "ᄁᆪᄂᆬᆭᄃᄄᄅᆰᆱᆲᆳᆴᆵᄚᄆᄇᄈᄡᄉᄊᄋᄌᄍᄎᄏᄐᄑᄒ"), (0xFFC2, 1, "ᅡᅢᅣᅤᅥᅦ"), (0xFFCA, 1, "ᅧᅨᅩᅪᅫᅬ"),
   (0xFFD2, 1, "ᅭᅮᅯᅰᅱᅲ"), (0xFFDA, 1, "ᅳᅴᅵ"), (0x10781, 1, "ːˑæʙɓ"),
   (0x10787, 1, "ʣꭦʥʤɖɗᶑɘɞʩɤɢɠʛħʜɧʄʪʫɬ𝼄ꞎɮ𝼅ʎ𝼆øɶɷqɺ𝼈ɽɾʀʨʦꭧʧʈⱱ"), (0x107B2, 1, "ʏʡʢʘǀǁǂ𝼊𝼞"),
   (0x1D400, 1, "ABCDEFGHIJKLMNOPQRSTUVWXYZabcdefghijklmnopqrstuvwxyzABCDEFGH"),
   (0x1D43C, 1, "IJKLMNOPQRSTUVWXYZabcdefg"),
   (0x1D456, 1, "ijklmnopqrstuvwxyzABCDEFGHIJKLMNOPQRSTUVWXYZabcdefghijklmnop"),
   (0x1D492, 1, "qrstuvwxyzA"), (0x1D49E, 1, "CD"), (0x1D4A2, 1, "G"), (0x1D4A5, 1, "JK"),
   (0x1D4A9, 1, "NOPQ"), (0x1D4AE, 1, "STUVWXYZabcd"), (0x1D4BB, 1, "f"), (0x1D4BD, 1, "hijklmn"),
   (0x1D4C5, 1, "pqrstuvwxyzABCDEFGHIJKLMNOPQRSTUVWXYZabcdefghijklmnopqrstuvw"),
   (0x1D501, 1, "xyzAB"), (0x1D507, 1, "DEFG"), (0x1D50D, 1, "JKLMNOPQ"), (0x1D516, 1, "STUVWXY"),
   (0x1D51E, 1, "abcdefghijklmnopqrstuvwxyzAB"), (0x1D53B, 1, "DEFG"), (0x1D540, 1, "IJKLM"),
   (0x1D546, 1, "O"), (0x1D54A, 1, "STUVWXY"),
   (0x1D552, 1, "abcdefghijklmnopqrstuvwxyzABCDEFGHIJKLMNOPQRSTUVWXYZabcdefgh"),
   (0x1D58E, 1, "ijklmnopqrstuvwxyzABCDEFGHIJKLMNOPQRSTUVWXYZabcdefghijklmnop"),
   (0x1D5CA, 1, "qrstuvwxyzABCDEFGHIJKLMNOPQRSTUVWXYZabcdefghijklmnopqrstuvwx"),
   (0x1D606, 1, "yzABCDEFGHIJKLMNOPQRSTUVWXYZabcdefghijklmnopqrstuvwxyzABCDEF"),
   (0x1D642, 1, "GHIJKLMNOPQRSTUVWXYZabcdefghijklmnopqrstuvwxyzABCDEFGHIJKLMN"),
   (0x1D67E, 1, "OPQRSTUVWXYZabcdefghijklmnopqrstuvwxyzıȷ"),
   (0x1D6A8, 1, "ΑΒΓΔΕΖΗΘΙΚΛΜΝΞΟΠΡΘΣΤΥΦΧΨΩ"), (0x1D6C2, 1, "αβγδεζηθικλμνξοπρςστυφχψω"),
   (0x1D6DC, 1, "εθκφρπΑΒΓΔΕΖΗΘΙΚΛΜΝΞΟΠΡΘΣΤΥΦΧΨΩ"), (0x1D6FC, 1, "αβγδεζηθικλμνξοπρςστυφχψω"),
   (0x1D716, 1, "εθκφρπΑΒΓΔΕΖΗΘΙΚΛΜΝΞΟΠΡΘΣΤΥΦΧΨΩ"), (0x1D736, 1, "αβγδεζηθικλμνξοπρςστυφχψω"),
   (0x1D750, 1, "εθκφρπΑΒΓΔΕΖΗΘΙΚΛΜΝΞΟΠΡΘΣΤΥΦΧΨΩ"), (0x1D770, 1, "αβγδεζηθικλμνξοπρςστυφχψω"),
   (0x1D78A, 1, "εθκφρπΑΒΓΔΕΖΗΘΙΚΛΜΝΞΟΠΡΘΣΤΥΦΧΨΩ"), (0x1D7AA, 1, "αβγδεζηθικλμνξοπρςστυφχψω"),
   (0x1D7C4, 1, "εθκφρπϜϝ"), (0x1D7CE, 1, "01234567890123456789012345678901234567890123456789"),
   (0x1EE00, 1, "ابجد"), (0x1EE05, 1, "وزحطيكلمنسعفصقرشتثخذضظغٮںڡٯ"), (0x1EE21, 1, "بج"),
   (0x1EE24, 1, "ه"), (0x1EE27, 1, "ح"), (0x1EE29, 1, "يكلمنسعفصق"), (0x1EE34, 1, "شتثخ"),
   (0x1EE39, 1, "ض"), (0x1EE3B, 1, "غ"), (0x1EE42, 1, "ج"), (0x1EE47, 1, "ح"), (0x1EE49, 1, "ي"),
   (0x1EE4B, 1, "ل"), (0x1EE4D, 1, "نسع"), (0x1EE51, 1, "صق"), (0x1EE54, 1, "ش"), (0x1EE57, 1, "خ"),
   (0x1EE59, 1, "ض"), (0x1EE5B, 1, "غ"), (0x1EE5D, 1, "ں"), (0x1EE5F, 1, "ٯ"), (0x1EE61, 1, "بج"),
   (0x1EE64, 1, "ه"), (0x1EE67, 1, "حطيك"), (0x1EE6C, 1, "منسعفصق"), (0x1EE74, 1, "شتثخ"),
   (0x1EE79, 1, "ضظغٮ"), (0x1EE7E, 1, "ڡ"), (0x1EE80, 1, "ابجدهوزحطي"),
   (0x1EE8B, 1, "لمنسعفصقرشتثخذضظغ"), (0x1EEA1, 1, "بجد"), (0x1EEA5, 1, "وزحطي"),
   (0x1EEAB, 1, "لمنسعفصقرشتثخذضظغ"), (0x1FBF0, 1, "0123456789"),
   (0x2F800, 1, "丽丸乁𠄢你侮侻倂偺備僧像㒞𠘺免兔兤具𠔜㒹內再𠕋冗冤仌冬况𩇟凵刃㓟刻剆割剷㔕勇勉勤勺包匆北卉卑博即卽卿卿卿𠨬灰及叟𠭣叫叱吆"),
   (0x2F83C, 1, "咞吸呈周咢哶唐啓啣善善喙喫喳嗂圖嘆圗噑噴切壮城埴堍型堲報墬𡓤売壷夆多夢奢𡚨𡛪姬娛娧姘婦㛮㛼嬈嬾嬾𡧈寃寘寧寳𡬘寿将当尢㞁屠"),
   (0x2F878, 1, "屮峀岍𡷤嵃𡷦嵮嵫嵼巡巢㠯巽帨帽幩㡢𢆃㡼庰庳庶廊𪎒廾𢌱𢌱舁弢弢㣇𣊸𦇚形彫㣣徚忍志忹悁㤺㤜悔𢛔惇慈慌慎慌慺憎憲憤憯懞懲懶成戛"),
   (0x2F8B4, 1, "扝抱拔捐𢬌挽拼捨掃揤𢯱搢揅掩㨮摩摾撝摷㩬敏敬𣀊旣書晉㬙暑㬈㫤冒冕最暜肭䏙朗望朡杞杓𣏃㭉柺枅桒梅𣑭梎栟椔㮝楂榣槪檨𣚣櫛㰘次"),
   (0x2F8F0, 1, "𣢧歔㱎歲殟殺殻𣪍𡴋𣫺汎𣲼沿泍汧洖派海流浩浸涅𣴞洴港湮㴳滋滇𣻑淹潮𣽞𣾎濆瀹瀞瀛㶖灊災灷炭𠔥煅𤉣熜𤎫爨爵牐𤘈犀犕𤜵𤠔獺王㺬玥"),
   (0x2F92C, 1, "㺸㺸瑇瑜瑱璅瓊㼛甤𤰶甾𤲒異𢆟瘐𤾡𤾸𥁄㿼䀈直𥃳𥃲𥄙𥄳眞真真睊䀹瞋䁆䂖𥐝硎碌磌䃣𥘦祖𥚚𥛅福秫䄯穀穊穏𥥼𥪧𥪧竮䈂𥮫篆築䈧𥲀糒䊠"),
   (0x2F968, 1, "糨糣紀𥾆絣䌁緇縂繅䌴𦈨𦉇䍙𦋙罺𦌾羕翺者𦓚𦔣聠𦖨聰𣍟䏕育脃䐋脾媵𦞧𦞵𣎓𣎜舁舄辞䑫芑芋芝劳花芳芽苦𦬼若茝荣莭茣莽菧著荓菊菌菜"),
   (0x2F9A4, 1, "𦰶𦵫𦳕䔫蓱蓳蔖𧏊蕤𦼬䕝䕡𦾱𧃒䕫虐虜虧虩蚩蚈蜎蛢蝹蜨蝫螆䗗蟡蠁䗹衠衣𧙧裗裞䘵裺㒻𧢮𧥦䚾䛇誠諭變豕𧲨貫賁贛起𧼯𠠄跋趼跰𠣞軔輸"),
   (0x2F9E0, 1, "𨗒𨗭邔郱鄑𨜮鄛鈸鋗鋘鉼鏹鐕𨯺開䦕閷𨵷䧦雃嶲霣𩅅𩈚䩮䩶韠𩐊䪲𩒖頋頋頩𩖶飢䬳餩馧駂駾䯎𩬰鬒鱀鳽䳎䳭鵧𪃎䳸𪄅𪈎𪊑麻䵖黹黾鼅鼏鼖"), (0x2FA1C, 1, "鼻𪘀")]

end LetPoly.Text
