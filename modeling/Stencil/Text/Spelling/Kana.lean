/-!
Spellings of radicals, kana, bopomofo and squared words between U+2E80 and U+33FF, in rows of
sixteen.
-/
namespace Stencil.Text.Spelling

/-- Rows of spellings under the code point of their first character divided by sixteen. -/
def kana : List (Nat × String) :=
  [(0x2e8, " han yi yi yi ren fang ji dao dao bu jie xiao xiao wang wang"),
   (0x2e9, "wang wang si yao ji ji xin xin shou pu ? ji ri yue dai mu"),
   (0x2ea, "min shui shui huo zhao zhao pan niu quan wang pi mu shi shi zhu mi"),
   (0x2eb, "si wang wang wang wang wang yang yang yang lao yu yu rou jiu cao cao"),
   (0x2ec, "cao hu yi xi xi jian jiao jiao yan bei zu che chuo chuo chuo yi"),
   (0x2ed, "jin chang chang chang men fu fu yu qing wei ye feng fei shi shi shi"),
   (0x2ee, "shi shou ma gu gui yu niao lu mai huang min qi qi chi chi long"),
   (0x2ef, "long gui gui gui"),
   (0x2f0, "yi gun zhu pie yi jue er tou ren er ru ba jiong mi bing ji"),
   (0x2f1, "qian dao li bao bi fang xi shi bo jie han si you kou wei tu"),
   (0x2f2, "shi zhi sui xi da nu zi mian cun xiao wang shi che shan chuan gong"),
   (0x2f3, "ji jin gan yao guang yin gong yi gong ji shan chi xin ge hu shou"),
   (0x2f4, "zhi pu wen dou jin fang wu ri yue yue mu qian zhi dai shu wu"),
   (0x2f5, "bi mao shi qi shui huo zhao fu yao pan pian ya niu quan xuan yu"),
   (0x2f6, "gua wa gan sheng yong tian pi ne bo bai pi min mu mao shi shi"),
   (0x2f7, "shi rou he xue li zhu mi mi fou wang yang yu lao er lei er"),
   (0x2f8, "yu rou chen zi zhi jiu she chuan zhou gen se cao hu chong xue xing"),
   (0x2f9, "yi ya jian jiao yan gu dou shi zhi bei chi zou zu shen che xin"),
   (0x2fa, "chen chuo yi you bian li jin zhang men fu li zhui yu qing fei mian"),
   (0x2fb, "ge wei jiu yin ye feng fei shi shou xiang ma gu gao biao dou chang"),
   (0x2fc, "ge gui yu niao lu lu mai ma huang shu hei zhi mian ding gu shu"),
   (0x2fd, "bi qi chi long gui yue"),
   (0x300, "_ ,_ ._ \" [JIS] \" / 0 < >_ << >>_ [ ]_ \x7b \x7d_"),
   (0x301, "[( )]_ @ X_ [ ]_ [[ ]]_ (( ))_ [[ ]]_ ~~_ \x60\x60 '' ,,"),
   (0x302, "@ 1 2 3 4 5 6 7 8 9      "),
   (0x303, "~~ + + + +  @ _//_ +10+ +20+ +30+  masu"),
   (0x304, "? a a i i u u e e o o ka ga ki gi ku"),
   (0x305, "gu ke ge ko go sa za si zi su zu se ze so zo ta"),
   (0x306, "da ti di tu tu du te de to do na ni nu ne no ha"),
   (0x307, "ba pa hi bi pi hu bu pu he be pe ho bo po ma mi"),
   (0x308, "mu me mo ya ya yu yu yo yo ra ri ru re ro wa wa"),
   (0x309, "wi we wo n vu ka ke ? ?     \" \" yori"),
   (0x30a, "? a a i i u u e e o o ka ga ki gi ku"),
   (0x30b, "gu ke ge ko go sa za si zi su zu se ze so zo ta"),
   (0x30c, "da ti di tu tu du te de to do na ni nu ne no ha"),
   (0x30d, "ba pa hi bi pi hu bu pu he be pe ho bo po ma mi"),
   (0x30e, "mu me mo ya ya yu yu yo yo ra ri ru re ro wa wa"),
   (0x30f, "wi we wo n vu ka ke va vi ve vo * - \" \" koto"),
   (0x310, "? ? ? ? V B P M F D T N L G K H"),
   (0x311, "J Q X ZH CH SH R Z C S A O E EH AI EI"),
   (0x312, "AU OU AN EN ANG ENG ER I U IU V NG GN ? O NN"),
   (0x313, "? g gg gs n nj nh d dd r lg lm lb ls lt lp"),
   (0x314, "rh m b bb bs s ss  j jj c k t p h a"),
   (0x315, "ae ya yae eo e yeo ye o wa wae oe yo u weo we wi"),
   (0x316, "yu eu yi i  nn nd ns nZ lgs ld lbs lZ lQ mb ms"),
   (0x317, "mZ mN bg bd bsg bst bj bt bN bbN sg sn sd sb sj Z"),
   (0x318, " N Ns NZ pN hh Q yo-ya yo-yae yo-i yu-yeo yu-ye yu-i U U-i"),
   (0x319, "? ? yi er san si shang zhong xia jia yi bing ding tian di ren"),
   (0x31a, "b z j g e en o on ir an in un im ng ain aun"),
   (0x31b, "am om ong in p t k h gh lh zy g gw kw oe ah"),
   (0x31c, "t wg xg bxg sw hzz hzg hp hzwg szwg hzt hzzp hpwg hzw hzzz n"),
   (0x31d, "h s p sp d hz hg sz swz st sg pd pz tn szz swg"),
   (0x31e, "hxwg hzzzg pg q"),
   (0x31f, "ku shi su to nu ha hi fu he ho mu ra ri ru re ro"),
   (0x320, "(g) (n) (d) (r) (m) (b) (s) () (j) (c) (k) (t) (p) (h) (ga) (na)"),
   (0x321, "(da) (ra) (ma) (ba) (sa) (a) (ja) (ca) (ka) (ta) (pa) (ha) (ju) (ojeon) (ohu)"),
   (0x322, "(1)_ (2)_ (3)_ (4)_ (5)_ (6)_ (7)_ (8)_ (9)_ (10)_ (Yue)_ (Huo)_ (Shui)_ (Mu)_ " ++
     "(Jin)_ (Tu)_"),
   (0x323, "(Ri)_ (Zhu)_ (You)_ (She)_ (Ming)_ (Te)_ (Cai)_ (Zhu)_ (Lao)_ (Dai)_ (Hu)_ (Xue)_ " ++
     "(Jian)_ (Qi)_ (Zi)_ (Xie)_"),
   (0x324, "(Ji)_ (Xiu)_ << >> wen you wen zheng 10 20 30 40 50 60 70 80"),
   (0x325, "PTE 21 22 23 24 25 26 27 28 29 30 31 32 33 34 35"),
   (0x326, "(g) (n) (d) (r) (m) (b) (s) () (j) (c) (k) (t) (p) (h) (ga) (na)"),
   (0x327, "(da) (ra) (ma) (ba) (sa) (a) (ja) (ca) (ka) (ta) (pa) (ha) cham-go jueui u KIS_"),
   (0x328, "(1)_ (2)_ (3)_ (4)_ (5)_ (6)_ (7)_ (8)_ (9)_ (10)_ (Yue)_ (Huo)_ (Shui)_ (Mu)_ " ++
     "(Jin)_ (Tu)_"),
   (0x329, "(Ri)_ (Zhu)_ (You)_ (She)_ (Ming)_ (Te)_ (Cai)_ (Zhu)_ (Lao)_ (Mi)_ (Nan)_ (Nu)_ " ++
     "(Shi)_ (You)_ (Yin)_ (Zhu)_"),
   (0x32a, "(Xiang)_ (Xiu)_ (Xie)_ (Zheng)_ (Shang)_ (Zhong)_ (Xia)_ (Zuo)_ (You)_ (Yi)_ " ++
     "(Zong)_ (Xue)_ (Jian)_ (Qi)_ (Zi)_ (Xie)_"),
   (0x32b, "(Ye)_ 36 37 38 39 40 41 42 43 44 45 46 47 48 49 50"),
   (0x32c, "1M 2M 3M 4M 5M 6M 7M 8M 9M 10M 11M 12M Hg erg eV LTD"),
   (0x32d, "a i u u o ka ki ku ke ko sa si su se so ta"),
   (0x32e, "ti tu te to na ni nu ne no ha hi hu he ho ma mi"),
   (0x32f, "mu me mo ya yu yo ra ri ru re ro wa wi we wo Reiwa"),
   (0x330, "apartment alpha ampere are inning inch won escudo acre ounce ohm kai-ri carat " ++
     "calorie gallon gamma"),
   (0x331, "giga guinea curie guilder kilo kilogram kilometer kilowatt gram gram_ton cruzeiro " ++
     "krone case koruna co-op cycle"),
   (0x332, "centime shilling centi cent dozen desi dollar ton nano knot heights percent parts " ++
     "barrel piaster picul"),
   (0x333, "pico building farad feet bushel franc hectare peso pfennig hertz pence page beta " ++
     "point volt hon"),
   (0x334, "pound hall horn micro mile mach mark mansion micron milli millibar mega megaton " ++
     "meter yard yard"),
   (0x335, "yuan liter lira rupee ruble rem roentgen watt 0h 1h 2h 3h 4h 5h 6h 7h"),
   (0x336, "8h 9h 10h 11h 12h 13h 14h 15h 16h 17h 18h 19h 20h 21h 22h 23h"),
   (0x337, "24h HPA da AU bar oV pc dm dm^2 dm^3 IU Heisei Syouwa Taisyou Meiji Inc."),
   (0x338, "pA nA microamp mA kA kB MB GB cal kcal pF nF microFarad microgram mg kg"),
   (0x339, "Hz kHz MHz GHz THz microliter ml dl kl fm nm micrometer mm cm km mm^2"),
   (0x33a, "cm^2 m^2 km^2 mm^4 cm^3 m^3 km^3 m/s m/s^2 Pa kPa MPa GPa rad rad/s rad/s^2"),
   (0x33b, "ps ns microsecond ms pV nV microvolt mV kV MV pW nW microwatt mW kW MW"),
   (0x33c, "kOhm MOhm a.m. Bq cc cd C/kg Co. dB Gy ha HP in K.K. KM kt"),
   (0x33d, "lm ln log lx mb mil mol pH p.m. PPM PR sr Sv Wb V/m A/m"),
   (0x33e, "1d 2d 3d 4d 5d 6d 7d 8d 9d 10d 11d 12d 13d 14d 15d 16d"),
   (0x33f, "17d 18d 19d 20d 21d 22d 23d 24d 25d 26d 27d 28d 29d 30d 31d gal")]

end Stencil.Text.Spelling
