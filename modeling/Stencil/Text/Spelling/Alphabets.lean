/-!
Spellings of the characters of alphabets below U+2000, in rows of sixteen.
-/
namespace Stencil.Text.Spelling

/-- Rows of spellings under the code point of their first character divided by sixteen. -/
def alphabets : List (Nat × String) :=
  [(0x8, "               "),
   (0x9, "               "),
   (0xa, "_ ! C/ PS $? Y= | SS \" (c) a << !  (r) -"),
   (0xb, "deg +- 2 3 ' u P * , 1 o >> 1/4 1/2 3/4"),
   (0xc, "A A A A A A AE C E E E E I I I I"),
   (0xd, "D N O O O O O x O U U U U Y Th ss"),
   (0xe, "a a a a a a ae c e e e e i i i i"),
   (0xf, "d n o o o o o / o u u u u y th y"),
   (0x10, "A a A a A a C c C c C c C c D d"),
   (0x11, "D d E e E e E e E e E e G g G g"),
   (0x12, "G g G g H h H h I i I i I i I i"),
   (0x13, "I i IJ ij J j K k k L l L l L l L"),
   (0x14, "l L l N n N n N n 'n NG ng O o O o"),
   (0x15, "O o OE oe R r R r R r S s S s S s"),
   (0x16, "S s T t T t T t U u U u U u U u"),
   (0x17, "U u U u W w Y y Y Z z Z z Z z s"),
   (0x18, "b B B b 6 6 O C c D D D d d 3 @"),
   (0x19, "E F f G G hv I I K k l l W N n O"),
   (0x1a, "O o OI oi P p YR 2 2 SH sh t T t T U"),
   (0x1b, "u Y V Y y Z z ZH ZH zh zh 2 5 5 ts w"),
   (0x1c, "| || |= ! DZ Dz dz LJ Lj lj NJ Nj nj A a I"),
   (0x1d, "i O o U u U u U u U u U u @ A a"),
   (0x1e, "A a AE ae G g G g K k O o O o ZH zh"),
   (0x1f, "j DZ Dz dz G g HV W N n A a AE ae O o"),
   (0x20, "A a A a E e E e I i I i O o O o"),
   (0x21, "R r R r U u U u S s T t Y y H h"),
   (0x22, "n d OU ou Z z A a E e O o O o O o"),
   (0x23, "O o Y y l n t j db qp A C c L T s"),
   (0x24, "z ? ? B U V E e J j Q q R r Y y"),
   (0x25, "a a a b o c d d e @ @ e e e e j"),
   (0x26, "g g g g u Y h h i i I l l l lZ W"),
   (0x27, "W m n n n o OE O F r r r r r r r"),
   (0x28, "R R s S j S S t t u U v ^ W y Y"),
   (0x29, "z z Z Z ? ? ? C @ B E G H j k L"),
   (0x2a, "q ? ? dz dZ dz ts tS tC fN ls lz WW ]] h h"),
   (0x2b, "h h j r r r r w y ' \" \x60 ' \x60 \x60 '"),
   (0x2c, "? ? < > ^ V ^ V ' - / \\ , _ \\ /"),
   (0x2d, ": . \x60 ' ^ V + - V . @ , ~~ \" R X"),
   (0x2e, "G l s x ?        V = \""),
   (0x30, "               "),
   (0x31, "               "),
   (0x32, "               "),
   (0x33, "               "),
   (0x34, "               "),
   (0x35, "               "),
   (0x36, "   a e i o u c d h m r t v x"),
   (0x37, "H h Ss ss ' , W w ? ?  s s s ; J"),
   (0x38, "? ? ? ?   A ; E E I ? O ? U O"),
   (0x39, "I A B G D E Z E Th I K L M N Ks O"),
   (0x3a, "P R ? S T U Ph Kh Ps O I U a e e i"),
   (0x3b, "u a b g d e z e th i k l m n x o"),
   (0x3c, "p r s s t u ph kh ps o i u o u o &"),
   (0x3d, "b th U U U ph p & Q q St st W w Q q"),
   (0x3e, "Sp sp Sh sh F f Kh kh H h G g CH ch Ti ti"),
   (0x3f, "k r c j Th e e Sh sh S S s r S S S"),
   (0x40, "Ie Io Dj Gj Ie Dz I Yi J Lj Nj Tsh Kj I U Dzh"),
   (0x41, "A B V G D E Zh Z I I K L M N O P"),
   (0x42, "R S T U F Kh Ts Ch Sh Shch ' Y ' E Iu Ia"),
   (0x43, "a b v g d e zh z i i k l m n o p"),
   (0x44, "r s t u f kh ts ch sh shch ' y ' e iu ia"),
   (0x45, "ie io dj gj ie dz i yi j lj nj tsh kj i u dzh"),
   (0x46, "O o E e Ie ie E e Ie ie O o Io io Ks ks"),
   (0x47, "Ps ps F f Y y Y y u u O o O o Ot ot"),
   (0x48, "Q q *1000*     ? *100.000* *1.000.000* Jh jh \" \" R' r'"),
   (0x49, "G' g' G' g' G' g' Zh' zh' Z' z' K' k' K' k' K' k'"),
   (0x4a, "K' k' N' n' Ng ng P' p' Kh kh S' s' T' t' U u"),
   (0x4b, "U' u' Kh' kh' Tts tts Ch' ch' Ch' ch' H h Ch ch Ch' ch'"),
   (0x4c, "\x60 Zh zh K' k' L l N' n' N n Ch ch M m '"),
   (0x4d, "a a A a Ae ae Ie ie @ @ @ @ Zh zh Z z"),
   (0x4e, "Dz dz I i I i O o O o O o E e U u"),
   (0x4f, "U u U u Ch ch G g Y y G g Kh kh Kh kh"),
   (0x50, "D d Dj dj Zj zj Dzj dzj Lj lj Nj nj Sj sj Tj tj"),
   (0x51, "Z z L l Lh lh Rh rh Ya ya Q q W w K k"),
   (0x52, "L l N n P p H h N n Dzh dzh Dch dch L l"),
   (0x53, "L A B G D E Z E E T\x60 Zh I L Kh Ts K"),
   (0x54, "H Dz Gh Ch M Y N Sh O Ch\x60 P J Rh S V T"),
   (0x55, "R Ts\x60 W P\x60 K\x60 O F ? ? < ' / ! , ? ."),
   (0x56, "t a b g d e z e e t\x60 zh i l kh ts k"),
   (0x57, "h dz gh ch m y n sh o ch\x60 p j rh s v t"),
   (0x58, "r ts\x60 w p\x60 k\x60 o f ew yi : -"),
   (0x59, "?               "),
   (0x5a, "               "),
   (0x5b, "@ e a o i e e a a o o u '   "),
   (0x5c, "   :    a"),
   (0x5d, "A b g d h v z kh t y k k l m m n"),
   (0x5e, "n s \x60 p p ts ts q r sh t ? ? ? ? y"),
   (0x5f, "V oy i ' \""),
   (0x60, "? ? ? ? ? ? ? ? ? ? ? ? ,"),
   (0x61, "        a u i ;"),
   (0x62, "y ' a ' w' i' y' a b @ t th j H kh d"),
   (0x63, "dh r z s sh S D T Z \x60 G k k y y y"),
   (0x64, " f q k l m n h w ~~ y an un in a u"),
   (0x65, "i W   ' ' i u      u  "),
   (0x66, "0 1 2 3 4 5 6 7 8 9 % . , *"),
   (0x67, "a ' ' ' ' ' 'w 'u 'y tt tth b t T p th"),
   (0x68, "bh 'h H ny dy H ch cch dd D D Dt dh ddh d D"),
   (0x69, "D rr R R R R R R j R S S S S S T"),
   (0x6a, "GH F F F v f ph Q Q kh k K K ng K g"),
   (0x6b, "G N G G G L L L L N N N N N h Ch"),
   (0x6c, "hy h H @ W oe oe u yu yu W v y Y Y W"),
   (0x6d, "e y y y' . ae        @ # "),
   (0x6e, "         ^     d r"),
   (0x6f, "0 1 2 3 4 5 6 7 8 9 Sh D Gh & +m h"),
   (0x70, "// / , ! ! - , , ; ? ~~ \x7b \x7d * ? "),
   (0x71, "'  b g g d d h w z H t t y yh k"),
   (0x72, "l m n s s \x60 p p S q r sh t b g d"),
   (0x73, "a a a A A A e e e E i i u u u o"),
   (0x74, " \x60 '   X Q @ @ | + ? ? zh k f"),
   (0x75, "b b b b b b b h h d d r s gh gh gh"),
   (0x76, "f f g ng g m m n n n l r r s ch kh"),
   (0x77, "s r j a a i i y u o e e ch s s k"),
   (0x78, "h sh n r b L k ' v m f dh th l g ny"),
   (0x79, "s d z t y p j ch tt hh kh th z sh s d"),
   (0x7a, "t z \x60 gh q w a aa i ee u oo e ey o oa"),
   (0x7b, " n"),
   (0x7c, "0 1 2 3 4 5 6 7 8 9 a e i e u o"),
   (0x7d, "o n n b p t j c d r rr s gb f k l"),
   (0x7e, "n m ny n h w y ny j c r     "),
   (0x7f, "    ' '"),
   (0x80, "' b g d h w z h t y k l m n s '"),
   (0x81, "f ts q r sh t     y y e e a a"),
   (0x82, "a a a a a a u u i i i o  "),
   (0x84, "a b g d h u z h t i k l m n s '"),
   (0x85, "p s q r sh t d kd '   "),
   (0x86, "ng j ny t n n bh r l l s"),
   (0x87, "a a a a a a a a a a a a a a a a"),
   (0x88, "a a a  w y y ? ? n y d r t r"),
   (0x8a, "b b j t f q zl m y y r w y a d s"),
   (0x8b, "g w z ' k q mb mp t nr ny f q n ph th"),
   (0x8c, "th ch kh gh q j j l g y      "),
   (0x8d, "               "),
   (0x8e, "    o ou e on oun en      "),
   (0x8f, "an un in  a           "),
   (0x90, "m N N H a a aa i ii u uu R L eN e e"),
   (0x91, "ai oN o o au k kh g gh ng c ch j jh ny tt"),
   (0x92, "tth dd ddh nn t th d dh n nnn p ph b bh m y"),
   (0x93, "r rr l l lll v sh ss s h oe oe ' ' aa i"),
   (0x94, "ii u uu R RR eN e e ai oN o o au  e aw"),
   (0x95, "AUM ' ' \x60 ' e ue ue q khh ghh z dddh rh f yy"),
   (0x96, "RR LL L LL _/_ _//_ 0 1 2 3 4 5 6 7 8 9"),
   (0x97, ". ? a oe oe aw ue ue d zh y g j ' d b"),
   (0x98, " N N H ? a aa i ii u uu R RR ? ? e"),
   (0x99, "ai ? ? o au k kh g gh ng c ch j jh ny tt"),
   (0x9a, "tth dd ddh nn t th d dh n ? p ph b bh m y"),
   (0x9b, "r ? l ? ? ? sh ss s h ? ? ' ' aa i"),
   (0x9c, "ii u uu R RR ? ? e ai ? ? o au  t"),
   (0x9d, "? ? ? ? ? ? ? + ? ? ? ? rr rh ? yy"),
   (0x9e, "RR LL L LL ? ? 0 1 2 3 4 5 6 7 8 9"),
   (0x9f, "r' r\x60 Rs Rs 1/ 2/ 3/ 4/ _1_-_1/ /16   m ? "),
   (0xa0, "? ? N h ? a aa i ii u uu ? ? ? ? ee"),
   (0xa1, "ai ? ? oo au k kh g gh ng c ch j jh ny tt"),
   (0xa2, "tth dd ddh nn t th d dh n ? p ph b bb m y"),
   (0xa3, "r ? l ll ? v sh ? s h ? ? ' ? aa i"),
   (0xa4, "ii u uu ? ? ? ? ee ai ? ? oo au "),
   (0xa5, "?  ? ? ? ? ? ? ? khh ghh z rr ? f"),
   (0xa6, "? ? ? ? ? ? 0 1 2 3 4 5 6 7 8 9"),
   (0xa7, "N H i u G.E.O. y"),
   (0xa8, "? N N H ? a aa i ii u uu R l eN ? e"),
   (0xa9, "ai oN ? o au k kh g gh ng c ch j jh ny tt"),
   (0xaa, "tth dd ddh nn t th d dh n ? p ph b bh m ya"),
   (0xab, "r ? l ll ? v sh ss s h ? ? ' ' aa i"),
   (0xac, "ii u uu R RR eN ? e ai oN ? o au "),
   (0xad, "AUM"),
   (0xae, "RR l l l ? ? 0 1 2 3 4 5 6 7 8 9"),
   (0xaf, "? ? ? ? ? ? ? ? ? zh      "),
   (0xb0, "? N N H ? a aa i ii u uu R L ? ? e"),
   (0xb1, "ai ? ? o au k kh g gh ng c ch j jh ny tt"),
   (0xb2, "tth dd ddh nn t th d dh n ? p ph b bh m y"),
   (0xb3, "r ? l ll ? v sh ss s h ? ? ' ' aa i"),
   (0xb4, "ii u uu R r ? ? e ai ? ? o au "),
   (0xb5, "? ? ? ? ?  + + ? ? ? ? rr rh ? yy"),
   (0xb6, "RR LL l l ? ? 0 1 2 3 4 5 6 7 8 9"),
   (0xb7, " w 1/4 1/2 3/4 1/16 1/8 3/16"),
   (0xb8, "? ? N H ? a aa i ii u uu ? ? ? e ee"),
   (0xb9, "ai ? o oo au k ? ? ? ng c ? j ? ny tt"),
   (0xba, "? ? ? nn t ? ? ? n nnn p ? ? ? m y"),
   (0xbb, "r rr l ll lll v sh ss s h ? ? ? ? aa i"),
   (0xbc, "ii u uu ? ? ? e ee ai ? o oo au "),
   (0xbd, "om ? ? ? ? ? ? +"),
   (0xbe, "? ? ? ? ? ? 0 1 2 3 4 5 6 7 8 9"),
   (0xbf, "+10+ +100+ +1000+"),
   (0xc0, "m N N H m a aa i ii u uu R L ? e ee"),
   (0xc1, "ai ? o oo au k kh g gh ng c ch j jh ny tt"),
   (0xc2, "tth dd ddh nn t th d dh n ? p ph b bh m y"),
   (0xc3, "r rr l ll l v sh ss s h ? ?  ' aa i"),
   (0xc4, "ii u uu R RR ? e ee ai ? o oo au "),
   (0xc5, "? ? ? ? ? + + ? ts dz r ? ? n"),
   (0xc6, "RR LL l l ? ? 0 1 2 3 4 5 6 7 8 9"),
   (0xc7, "? ? ? ? ? ? ? ? 0 1 2 3 1 2 3"),
   (0xc8, "m m N H ? a aa i ii u uu R L ? e ee"),
   (0xc9, "ai ? o oo au k kh g gh ng c ch j jh ny tt"),
   (0xca, "tth dd ddh nn t th d dh n ? p ph b bh m y"),
   (0xcb, "r rr l ll ? v sh ss s h ? ?  ' aa i"),
   (0xcc, "ii u uu R RR ? e ee ai ? o oo au "),
   (0xcd, "? ? ? ? ? + + ? ? ? ? ? ? n lll"),
   (0xce, "RR LL l l ? ? 0 1 2 3 4 5 6 7 8 9"),
   (0xcf, "? h h m"),
   (0xd0, "m m N H m a aa i ii u uu R L ? e ee"),
   (0xd1, "ai ? o oo au k kh g gh ng c ch j jh ny tt"),
   (0xd2, "tth dd ddh nn t th d dh n n p ph b bh m y"),
   (0xd3, "r rr l ll lll v sh ss s h t   ' aa i"),
   (0xd4, "ii u uu R r ? e ee ai  o oo au  r "),
   (0xd5, "? ? ? ? m y l + 1/160 1/40 3/80 1/20 1/10 3/20 1/5 i"),
   (0xd6, "RR LL l l ? ? 0 1 2 3 4 5 6 7 8 9"),
   (0xd7, "10 100 1000 1/4 1/2 3/4 1/16 1/8 3/16 ? n n r l l k"),
   (0xd8, "? m N H ? a aa ae aae i ii u uu R RR L"),
   (0xd9, "LL e ee ai o oo au ? ? ? k kh g gh ng nng"),
   (0xda, "c ch j jh ny jny nyj tt tth dd ddh nn nndd t th d"),
   (0xdb, "dh n ? nd p ph b bh m mb y r ? l"),
   (0xdc, "v sh ss s h ll f ? ? ?  ? ? ? ? aa"),
   (0xdd, "ae aae i ii u ? uu ? R e ee ai o oo au L"),
   (0xde, "? ? ? ? ? ? 0 1 2 3 4 5 6 7 8 9"),
   (0xdf, "? ? RR LL _._"),
   (0xe0, "? k kh kh kh kh kh ng cch ch ch ch ch y d t"),
   (0xe1, "th th th n d t th th th n b p ph f ph f"),
   (0xe2, "ph m y r R l L w s s s h l \x60 h ~~"),
   (0xe3, "a a aa am i ii ue uue u uu ' ? ? ? ? Bh."),
   (0xe4, "e ae o ai ai ao +       M  *"),
   (0xe5, "0 1 2 3 4 5 6 7 8 9 _//_ _///_"),
   (0xe8, "? k kh ? kh ? gh ng ch ch s ? jh ny ny t"),
   (0xe9, "th d dh n d h th th dh n b p ph f ph f"),
   (0xea, "bh m y r ? l ? w sh sh s h l \x60  ~~"),
   (0xeb, "a a aa am i ii y yy u uu  o l ny"),
   (0xec, "e ei o ay ai ? + ?      M "),
   (0xed, "0 1 2 3 4 5 6 7 8 9 ? ? hn hm kh ny"),
   (0xf0, "AUM        _//_ _*_  - _/_ _/_ _//_ _-/_"),
   (0xf1, "_+/_ _X/_ _/XX/_ _/X/_ ,_      o oo ooo x xx ox"),
   (0xf2, "0 1 2 3 4 5 6 7 8 9 .5 1.5 2.5 3.5 4.5 5.5"),
   (0xf3, "6.5 7.5 8.5 -.5 + * ^ _  ~~ ? ] [[ ]]  "),
   (0xf4, "k kh g gh ng c ch j  ny tt tth dd ddh nn t"),
   (0xf5, "th d dh n p ph b bh m ts tsh dz dzh w zh z"),
   (0xf6, "' y r l sh ssh s h a kss r k r"),
   (0xf7, "? aa i ii u uu R RR L LL e ee o oo M H"),
   (0xf8, "i ii m m  '   h h   h h h h"),
   (0xf9, "k kh g gh ng c ch j ? ny tt tth dd ddh nn t"),
   (0xfa, "th d dh n p ph b bh m ts tsh dz dzh w zh z"),
   (0xfb, "' y r l sh ss s h a kss w y r ? X _:X:_"),
   (0xfc, "_/O/_ _/o/_ _\\o\\_ _(O)_            "),
   (0xfd, "         "),
   (0x100, "k kh g gh ng c ch j jh ny nny tt tth dd ddh nn"),
   (0x101, "tt th d dh n p ph b bh m y r l w s h"),
   (0x102, "ll a a i ii u uu e e o au a aa i ii u"),
   (0x103, "uu e ai i o e N ' :   y r w h s"),
   (0x104, "0 1 2 3 4 5 6 7 8 9 _/_ _//_ n* r* l* e*"),
   (0x105, "sh ss R RR L LL R RR L LL ng jh b b n m"),
   (0x106, "l sh eu   th pw eu ue      n yw"),
   (0x107, "ghw i oe u e k kh g c z ny d n ph f b"),
   (0x108, "th h w a e e y        f "),
   (0x109, "0 1 2 3 4 5 6 7 8 9   a ai"),
   (0x10a, "A B G D E V Z T\x60 I K L M N O P Zh"),
   (0x10b, "R S T U P\x60 K\x60 G' Q Sh Ch\x60 C\x60 Z' C Ch X J"),
   (0x10c, "H E Y W Xh OE ? Y ? ? ? ? ? E"),
   (0x10d, "a b g d e v z t\x60 i k l m n o p zh"),
   (0x10e, "r s t u p\x60 k\x60 g' q sh ch\x60 c\x60 z' c ch x j"),
   (0x10f, "h e y w xh oe f y ' g ' _//_ n e"),
   (0x110, "g gg n d dd r m b bb s ss  j jj c k"),
   (0x111, "t p h ng nn nd nb dg rn rr rh rN mb mN bg bn"),
   (0x112, "bg bs bsg bst bsb bss bsj bj bc bt bp bN bbN sg sn sd"),
   (0x113, "sr sm sb sbg sss s sj sc sk st sp sh s ss s ss"),
   (0x114, "Z g d m b s Z  j c t p N j j jj"),
   (0x115, "j jj ck ch c c pb pN hh Q gd ns nj nh dl "),
   (0x116, " a ae ya yae eo e yeo ye o wa wae oe yo u weo"),
   (0x117, "we wi yu eu yi i a-o a-u ya-o ya-yo eo-o eo-u eo-eu yeo-o yeo-u o-eo"),
   (0x118, "o-e o-ye o-o o-u yo-ya yo-yae yo-yeo yo-o yo-i u-a u-ae u-eo-eu u-ye u-u yu-a " ++
     "yu-eo"),
   (0x119, "yu-e yu-yeo yu-ye yu-u yu-i eu-u eu-eu yi-u i-a i-ya i-o i-u i-eu i-U U U-eo"),
   (0x11a, "U-u U-i UU a-eu ya-u yeo-ya o-ya o-yae g gg gs n nj nh d l"),
   (0x11b, "lg lm lb ls lt lp lh m b bs s ss ng j c k"),
   (0x11c, "t p h gl gsg ng nd ns nZ nt dg tl lgs ln ld lth"),
   (0x11d, "ll lmg lms lbs lbh rNp lss lZ lk lQ mg ml mb ms mss mZ"),
   (0x11e, "mc mh mN bl bp ph pN sg sd sl sb Z g ss ng kh"),
   (0x11f, "N Ns NZ pb pN hn hl hm hb Q gn gb gc gk gh nn"),
   (0x120, "ha hu hi haa hee he ho hoa la lu li laa lee le lo lwa"),
   (0x121, "hha hhu hhi hhaa hhee hhe hho hhwa ma mu mi maa mee me mo mwa"),
   (0x122, "sza szu szi szaa szee sze szo szwa ra ru ri raa ree re ro rwa"),
   (0x123, "sa su si saa see se so swa sha shu shi shaa shee she sho shwa"),
   (0x124, "qa qu qi qaa qee qe qo qoa qwa ? qwi qwaa qwee qwe"),
   (0x125, "qha qhu qhi qhaa qhee qhe qho ? qhwa ? qhwi qhwaa qhwee qhwe"),
   (0x126, "ba bu bi baa bee be bo bwa va vu vi vaa vee ve vo vwa"),
   (0x127, "ta tu ti taa tee te to twa ca cu ci caa cee ce co cwa"),
   (0x128, "xa xu xi xaa xee xe xo xoa xwa ? xwi xwaa xwee xwe"),
   (0x129, "na nu ni naa nee ne no nwa nya nyu nyi nyaa nyee nye nyo nywa"),
   (0x12a, "'a 'u 'i 'aa 'ee 'e 'o 'wa ka ku ki kaa kee ke ko koa"),
   (0x12b, "kwa ? kwi kwaa kwee kwe ? ? kxa kxu kxi kxaa kxee kxe kxo"),
   (0x12c, "kxwa ? kxwi kxwaa kxwee kxwe ? ? wa wu wi waa wee we wo woa"),
   (0x12d, "\x60a \x60u \x60i \x60aa \x60ee \x60e \x60o ? za zu zi zaa zee ze zo zwa"),
   (0x12e, "zha zhu zhi zhaa zhee zhe zho zhwa ya yu yi yaa yee ye yo yoa"),
   (0x12f, "da du di daa dee de do dwa dda ddu ddi ddaa ddee dde ddo ddwa"),
   (0x130, "ja ju ji jaa jee je jo jwa ga gu gi gaa gee ge go goa"),
   (0x131, "gwa ? gwi gwaa gwee gwe ? ? gga ggu ggi ggaa ggee gge ggo ggwaa"),
   (0x132, "tha thu thi thaa thee the tho thwa cha chu chi chaa chee che cho chwa"),
   (0x133, "pha phu phi phaa phee phe pho phwa tsa tsu tsi tsaa tsee tse tso tswa"),
   (0x134, "tza tzu tzi tzaa tzee tze tzo tzoa fa fu fi faa fee fe fo fwa"),
   (0x135, "pa pu pi paa pee pe po pwa rya mya fya ? ?   "),
   (0x136, "? _ , , ; : :: ? // 1 2 3 4 5 6 7"),
   (0x137, "8 9 10+ 20+ 30+ 40+ 50+ 60+ 70+ 80+ 90+ 100+ 10,000+"),
   (0x138, "mwe mwi mwe mwi bwe bwi bwe bwi fwe fwi fwe fwi pwe pwi pwe pwi"),
   (0x139, "         "),
   (0x13a, "a e i o u v ga ka ge gi go gu gv ha he hi"),
   (0x13b, "ho hu hv la le li lo lu lv ma me mi mo mu na hna"),
   (0x13c, "nah ne ni no nu nv qua que qui quo quu quv sa s se si"),
   (0x13d, "so su sv da ta de te di ti do du dv dla tla tle tli"),
   (0x13e, "tlo tlu tlv tsa tse tsi tso tsu tsv wa we wi wo wu wv ya"),
   (0x13f, "ye yi yo yu yv mv ? ? ye yi yo yu yv mv"),
   (0x140, "= e aai i ii o oo oo ee i a aa we we wi wi"),
   (0x141, "wii wii wo wo woo woo woo wa wa waa waa waa ai w ' t"),
   (0x142, "k sh s n w n h w c + l en in on an pe"),
   (0x143, "paai pi pii po poo poo hee hi pa paa pwe pwe pwi pwi pwii pwii"),
   (0x144, "pwo pwo pwoo pwoo pwa pwa pwaa pwaa pwaa p p h te taai ti tii"),
   (0x145, "to too too dee di ta taa twe twe twi twi twii twii two two twoo"),
   (0x146, "twoo twa twa twaa twaa twaa t tte tti tto tta ke kaai ki kii ko"),
   (0x147, "koo koo ka kaa kwe kwe kwi kwi kwii kwii kwo kwo kwoo kwoo kwa kwa"),
   (0x148, "kwaa kwaa kwaa k kw keh kih koh kah ce caai ci cii co coo coo"),
   (0x149, "ca caa cwe cwe cwi cwi cwii cwii cwo cwo cwoo cwoo cwa cwa cwaa cwaa"),
   (0x14a, "cwaa c th me maai mi mii mo moo moo ma maa mwe mwe mwi mwi"),
   (0x14b, "mwii mwii mwo mwo mwoo mwoo mwa mwa mwaa mwaa mwaa m m mh m m"),
   (0x14c, "ne naai ni nii no noo noo na naa nwe nwe nwa nwa nwaa nwaa nwaa"),
   (0x14d, "n ng nh le laai li lii lo loo loo la laa lwe lwe lwi lwi"),
   (0x14e, "lwii lwii lwo lwo lwoo lwoo lwa lwa lwaa lwaa l l l se saai si"),
   (0x14f, "sii so soo soo sa saa swe swe swi swi swii swii swo swo swoo swoo"),
   (0x150, "swa swa swaa swaa swaa s s sw s sk skw s-w spwa stwa skwa scwa"),
   (0x151, "she shi shii sho shoo sha shaa shwe shwe shwi shwi shwii shwii shwo shwo shwoo"),
   (0x152, "shwoo shwa shwa shwaa shwaa sh ye yaai yi yii yo yoo yoo ya yaa ywe"),
   (0x153, "ywe ywi ywi ywii ywii ywo ywo ywoo ywoo ywa ywa ywaa ywaa ywaa y y"),
   (0x154, "y yi re re le raai ri rii ro roo lo ra raa la rwaa rwaa"),
   (0x155, "r r r fe faai fi fii fo foo fa faa fwaa fwaa f the the"),
   (0x156, "thi thi thii thii tho thoo tha thaa thwaa thwaa th tthe tthi ttho ttha tth"),
   (0x157, "tye tyi tyo tya he hi hii ho hoo ha haa h h hk qaai qi"),
   (0x158, "qii qo qoo qa qaa q tlhe tlhi tlho tlha re ri ro ra ngaai ngi"),
   (0x159, "ngii ngo ngoo nga ngaa ng nng she shi sho sha the thi tho tha th"),
   (0x15a, "lhi lhii lho lhoo lha lhaa lh the thi thii tho thoo tha thaa th b"),
   (0x15b, "e i o a we wi wo wa ne ni no na ke ki ko ka"),
   (0x15c, "he hi ho ha ghu gho ghe ghee ghi gha ru ro re ree ri ra"),
   (0x15d, "wu wo we wee wi wa hwu hwo hwe hwee hwi hwa thu tho the thee"),
   (0x15e, "thi tha ttu tto tte ttee tti tta pu po pe pee pi pa p gu"),
   (0x15f, "go ge gee gi ga khu kho khe khee khi kha kku kko kke kkee kki"),
   (0x160, "kka kk nu no ne nee ni na mu mo me mee mi ma yu yo"),
   (0x161, "ye yee yi ya ju ju jo je jee ji ji ja jju jjo jje jjee"),
   (0x162, "jji jja lu lo le lee li la dlu dlo dle dlee dli dla lhu lho"),
   (0x163, "lhe lhee lhi lha tlhu tlho tlhe tlhee tlhi tlha tlu tlo tle tlee tli tla"),
   (0x164, "zu zo ze zee zi za z z dzu dzo dze dzee dzi dza su so"),
   (0x165, "se see si sa shu sho she shee shi sha sh tsu tso tse tsee tsi"),
   (0x166, "tsa chu cho che chee chi cha ttsu ttso ttse ttsee ttsi ttsa X . qai"),
   (0x167, "ngai nngi nngii nngo nngoo nnga nngaa thwee thwi thwii thwo thwoo thwa thwaa ? w"),
   (0x168, "_ b l f s n h d t c q m g ng z r"),
   (0x169, "a o u e i ch th ph p x p < >"),
   (0x16a, "f v u yr y w th th a o ac ae o o o oe"),
   (0x16b, "on r k c k g ng g g w h h h h n n"),
   (0x16c, "n i e j g ae a eo p z s s s c z t"),
   (0x16d, "t d b b p p e m m m l l ng ng d o"),
   (0x16e, "ear ior qu qu qu s yr yr yr q x . : + 17 18"),
   (0x16f, "19 k sh oo a i e a eo"),
   (0x170, "a i u k g ng t d n p b m y r l w"),
   (0x171, "s h i u   ? ? ? ? ? ? ? ? ? r"),
   (0x172, "a i u k g ng t d n p b m y r l w"),
   (0x173, "s h i u "),
   (0x174, "a i u k g ng t d n p b m y r l w"),
   (0x175, "s h i u"),
   (0x176, "a i u k g ng t d n p b m y ? l w"),
   (0x177, "s ? i u"),
   (0x178, "k kh g gh ng c ch j jh ny t tth d ddh nn t"),
   (0x179, "th d dh n p ph b bh m y r l v sh ss s"),
   (0x17a, "h l q a aa i ii u uk uu uuv ry ryy ly lyy e"),
   (0x17b, "ai oo oo au a aa aa i ii y yy u uu ua oe ya"),
   (0x17c, "ie e ae ai oo au M H a\x60    r  ! "),
   (0x17d, "    . _//_ : + ++ _*_ _///_ KR '"),
   (0x17e, "0 1 2 3 4 5 6 7 8 9"),
   (0x17f, "0 1 2 3 4 5 6 7 8 9"),
   (0x180, "_@_ _..._ , ._ :_ _//_  - ,_ ._      "),
   (0x181, "0 1 2 3 4 5 6 7 8 9"),
   (0x182, "a e i o u O U ee n ng b p q g m l"),
   (0x183, "s sh t d ch j y r w f k kha ts z h zr"),
   (0x184, "lh zh ch - e i o u O U ng b p q g m"),
   (0x185, "t d ch j ts y w k g h jy ny dz e i iy"),
   (0x186, "U u ng k g h p sh t d j f g h ts z"),
   (0x187, "r ch zh i k r f zh n"),
   (0x188, "m H X W M _3_ _333_ a i k ng c tt tth dd nn"),
   (0x189, "t d p ph ss zh z a t zh gh ng c jh tta ddh"),
   (0x18a, "t dh ss cy zh z u y bh ' l"),
   (0x18b, "oy ay aay way poy pay pwoy tay kay kway may noy nay lay soy say"),
   (0x18c, "shoy shay shwoy yoy yay ray nwi nwi nwii nwii nwo nwo nwoo nwoo rwee rwi"),
   (0x18d, "rwii rwo rwoo rwa p t k c m n s sh w w"),
   (0x18e, "rwe loo laa thwe thwa tthwe tthoo tthaa tlhwe tlhoo shwe shoo hoo gwu gee gaa"),
   (0x18f, "gwa juu jwa l r s"),
   (0x190, " k kh g gh ng c ch j jh ny t th d dh n"),
   (0x191, "p ph b bh m y r l w sh sh s h gy tr"),
   (0x192, "a i u e ai o au e o y r w"),
   (0x193, "k ng m t n p m r l   "),
   (0x194, "lo ? ? ? ? ? 0 1 2 3 4 5 6 7 8 9"),
   (0x195, "k x ng ts s y t th l p ph m f v h q"),
   (0x196, "kh tsh n a i e e u o o ue e aue ai"),
   (0x197, "    "),
   (0x198, "q q k x ng k x ng ts s y ts s y t th"),
   (0x199, "n t th n p ph m p ph m f v l f v l"),
   (0x19a, "h d b h d b kv xv kv xv su su"),
   (0x19b, " a i u u e ae o oa ue ay ay uy oy oay uey"),
   (0x19c, "iy v ng n m k d b  "),
   (0x19d, "0 1 2 3 4 5 6 7 8 9 1 ? ? ? lae laew"),
   (0x19e, "0 1 2 3 4 5 6 7 8 9 10 11 12 13 14 15"),
   (0x19f, "0 1 2 3 4 5 6 7 8 9 10 11 12 13 14 15"),
   (0x1a0, "k g ng ngk p b m mp t d n nr c j ny nyc"),
   (0x1a1, "y r l v s a h i u e o ae"),
   (0x1a2, "k kh kh k kh kh ng c ch c s ch ny t th d"),
   (0x1a3, "th n t th t th n b p ph f p f ph m y"),
   (0x1a4, "y r rue l lue w sh sh s h l a h i i u"),
   (0x1a5, "u e o lae ss r l l ng ng p th m b s"),
   (0x1a6, " a a a a i i ue ue u u o oa oy e ae"),
   (0x1a7, "o ai ai oa m         ? ? "),
   (0x1a8, "0 1 2 3 4 5 6 7 8 9"),
   (0x1a9, "0 1 2 3 4 5 6 7 8 9"),
   (0x1ab, "               w"),
   (0x1ac, "w            g r t"),
   (0x1b0, "m m ng r h a a i i u u re ro le lo e"),
   (0x1b1, "ai o o k kh g gh ng c ch j jh ny t th d"),
   (0x1b2, "dh n t th d dh n p ph b bh m y r l w"),
   (0x1b3, "sh sh s h  a i i u u re ro le lo e ai"),
   (0x1b4, "o au e o  k kh ts f v z sh jny"),
   (0x1b5, "0 1 2 3 4 5 6 7 8 9"),
   (0x1b6, "? ? ? ? ? ? ? ? ? ? ?     "),
   (0x1b7, "   "),
   (0x1b8, "ng r h a i u e o e eu k q g ng c j"),
   (0x1b9, "z ny t d n p f v b m y r l w s x"),
   (0x1ba, "h y r l i u e o e eu ?  m w kh sy"),
   (0x1bb, "0 1 2 3 4 5 6 7 8 9 ' reu leu i k m"),
   (0x1bc, "a a h h h b b p p n n w w w g g"),
   (0x1bd, "j d r r m m t t s s s y y ng l l"),
   (0x1be, "ny c nd mb i u  e e e i i o o u u"),
   (0x1bf, "ng h  "),
   (0x1c0, "k kl kh g gl ng c ch j ny t th d n p pl"),
   (0x1c1, "ph f fl b bl m ml ts tsh dz y r l h hl v"),
   (0x1c2, "s sh w a y r a i o o u u e k m l"),
   (0x1c3, "n p r t ng ng  "),
   (0x1c4, "0 1 2 3 4 5 6 7 8 9 ? ? ? t th d"),
   (0x1c5, "0 1 2 3 4 5 6 7 8 9 a t g ng l a"),
   (0x1c6, "k j m w i s h ny r u c d n y e p"),
   (0x1c7, "d n r o t b v h m . m   '"),
   (0x1c8, "v d o s t t \" y u"),
   (0x1c9, "a b g d e v z t i k' l m n o p' zh"),
   (0x1ca, "r s t' u p k gh q' sh ch ts dz ts' ch' kh j"),
   (0x1cb, "h ey y w q o f y ' g ' ? ? e  "),
   (0x1cd, "               "),
   (0x1ce, "  h h h h h h h m m m m  m m"),
   (0x1cf, "m m h h  h h    m"),
   (0x1d0, "a ae ae b c d d e e i j k l m n o"),
   (0x1d1, "o o o o oe ou o o p r r t u u u m"),
   (0x1d2, "v w z zh ' ' g l p r ps l a ae b b"),
   (0x1d3, "d e e g h i j k l m n n o ou p r"),
   (0x1d4, "t u w a a a ae b d e e e e g i k"),
   (0x1d5, "m ng o o o o p t u u m v ' b g d"),
   (0x1d6, "ph ch i r u v b g r ph ch ue b d f m"),
   (0x1d7, "n p r r s t z g n g th i i p u u"),
   (0x1d8, "b d f g k l m n p r s sh v x z a"),
   (0x1d9, "a d e e e e i o sh u zh a c c d e"),
   (0x1da, "f j g h i i i i j l l l m m n n"),
   (0x1db, "n o ph s sh t u u u v v z z z zh th"),
   (0x1dc, "          r     "),
   (0x1dd, "is ur us a ae ao av c d d g g k l l m"),
   (0x1de, "n n r r s s z a b b e f l o p sh"),
   (0x1df, "u w a o u           "),
   (0x1e0, "a a b b b b b b c c d d d d d d"),
   (0x1e1, "d d d d e e e e e e e e e e f f"),
   (0x1e2, "g g h h h h h h h h h h i i i i"),
   (0x1e3, "k k k k k k l l l l l l l l m m"),
   (0x1e4, "m m m m n n n n n n n n o o o o"),
   (0x1e5, "o o o o p p p p r r r r r r r r"),
   (0x1e6, "s s s s s s s s s s t t t t t t"),
   (0x1e7, "t t u u u u u u u u u u v v v v"),
   (0x1e8, "w w w w w w w w w w x x x x y y"),
   (0x1e9, "z z z z z z h t w y a s s s Ss d"),
   (0x1ea, "a a a a a a a a a a a a a a a a"),
   (0x1eb, "a a a a a a a a e e e e e e e e"),
   (0x1ec, "e e e e e e e e i i i i o o o o"),
   (0x1ed, "o o o o o o o o o o o o o o o o"),
   (0x1ee, "o o o o u u u u u u u u u u u u"),
   (0x1ef, "u u y y y y y y y y LL ll V v y y"),
   (0x1f0, "a a a a a a a a A A A A A A A A"),
   (0x1f1, "e e e e e e ? ? E E E E E E"),
   (0x1f2, "e e e e e e e e E E E E E E E E"),
   (0x1f3, "i i i i i i i i I I I I I I I I"),
   (0x1f4, "o o o o o o ? ? O O O O O O"),
   (0x1f5, "u u u u u u u u ? U ? U ? U ? U"),
   (0x1f6, "o o o o o o o o O O O O O O O O"),
   (0x1f7, "a a e e e e i i o o u u o o"),
   (0x1f8, "a a a a a a a a A A A A A A A A"),
   (0x1f9, "e e e e e e e e E E E E E E E E"),
   (0x1fa, "o o o o o o o o O O O O O O O O"),
   (0x1fb, "a a a a a ? a a A A A A A _ i _"),
   (0x1fc, "_ _ e e e ? e e E E E E E _ _ _"),
   (0x1fd, "i i i i ? ? i i I I I I ? _ _ _"),
   (0x1fe, "u u u u r r u u U U U U R _ _ \x60"),
   (0x1ff, "? ? o o o ? o o O O O O O _ _")]

end Stencil.Text.Spelling
