/-!
Spellings of the characters of the scripts between U+10000 and U+1EFFF, in rows of sixteen.
-/
namespace Stencil.Text.Spelling

/-- Rows of spellings under the code point of their first character divided by sixteen. -/
def scripts : List (Nat × String) :=
  [(0x1000, "a e i o u da de di do du ja je ? jo ju ka"),
   (0x1001, "ke ki ko ku ma me mi mo mu na ne ni no nu pa pe"),
   (0x1002, "pi po pu qa qe qi qo ? ra re ri ro ru sa se si"),
   (0x1003, "so su ta te ti to tu wa we wi wo ? za ze ? zo"),
   (0x1004, "a2 a3 au dwe dwo nwa pu2 pte ra2 ra3 ro2 ta2 twe two"),
   (0x1010, "? ? ? ? ? ? ? 1 2 3 4 5 6 7 8 9"),
   (0x1011, "10 20 30 40 50 60 70 80 90 100 200 300 400 500 600 700"),
   (0x1012, "800 900 1000 2000 3000 4000 5000 6000 7000 8000 9000 10000 20000 30000 40000 " ++
     "50000"),
   (0x1013, "60000 70000 80000 90000"),
   (0x1014, "1/4 1/2 1 5 50 500 5000 50000 5 10 50 100 500 1000 5000 5"),
   (0x1015, "10 50 100 500 1000 10000 50000 10 1 1 1 2 2 2 2 5"),
   (0x1016, "10 10 10 10 10 30 50 50 50 50 100 300 500 500 500 500"),
   (0x1017, "500 1000 5000 5 50 1/2 1/2 2/3 3/4 ? ? ? ? 2 3 4"),
   (0x1018, "5 ? ? ? ? ? ? ? ? ? 0 1/4"),
   (0x1028, "a e b bh g d i w z th j k q l m n"),
   (0x1029, "mm nn u p kk r s t tt an en h x"),
   (0x102a, "a p d l u r l e q b m o d t sh sh"),
   (0x102b, "s j u nn x n ? p s i e u k k d u"),
   (0x102c, "g g st st g i k? t u r b b b b l e"),
   (0x102e, " 1 2 3 4 5 6 7 8 9 10 20 30 40 50 60"),
   (0x102f, "70 80 90 100 200 300 400 500 600 700 800 900"),
   (0x1030, "a b k d e v z h th i k l m n sh o"),
   (0x1031, "p sh q r s t u x ph kh f r ch i u s"),
   (0x1032, "1 5 10 50 ? ? ? ? ? ? ? ? ? y ts ts"),
   (0x1033, "a b g d e q z h th i k l m n j u"),
   (0x1034, "p 90 r s t w f x hw o 900"),
   (0x1035, "a b g d e zh dzh z dz i k l m n o p"),
   (0x1036, "r s t u ch sh shch y y o o f kh ts v '"),
   (0x1037, "' e e yu ya ia a d z n s"),
   (0x1038, "a b g kh d h w z h t y k sh l m dh"),
   (0x1039, "n z s ' p s q r th gh t i u s"),
   (0x103a, "a i u ka ku ga gu xa ca ja ji ta tu da di du"),
   (0x103b, "tha pa ba fa na nu ma mi mu ya va vi ra ru la sa"),
   (0x103c, "za sha ssa ha"),
   (0x103d, "? 1 2 10 20 100"),
   (0x1040, "i e a a o u i e a o u u ay ow w y"),
   (0x1041, "h p b t d ch j k g f v th dh s z sh"),
   (0x1042, "zh r l m n ng oi ew i e a a o u i e"),
   (0x1043, "a o u u ay ow w y h p b t d ch j k"),
   (0x1044, "g f v th dh s z sh zh r l m n ng oi ew"),
   (0x1045, "p t k f th s sh ch y ng b d g v dh z"),
   (0x1046, "zh j w h ? m i e a a o u ow ah r n"),
   (0x1047, "ee ay ai u oh oo oi aw ar or air er ar ear ia yu"),
   (0x1048, "' b t j x kh d r s sh dh c g f q k"),
   (0x1049, "l m n w h y a e i o u aa ee oo"),
   (0x104a, "0 1 2 3 4 5 6 7 8 9"),
   (0x104b, "a ai ai a b ch hch e e h hy i k hk ky l"),
   (0x104c, "m n o oi p hp s sh t ht ts hts tsh dh u w"),
   (0x104d, "kh gh z zh ? ? ? ? a ai ai a b ch hch e"),
   (0x104e, "e h hy i k hk ky l m n o oi p hp s sh"),
   (0x104f, "t ht ts hts tsh dh u w kh gh z zh"),
   (0x1050, "a b c ch d nd dh e e f g gj h i j k"),
   (0x1051, "l ll m n n nj o p q r rr s sh t th u"),
   (0x1052, "v x y z zh gh ? kh"),
   (0x1053, "a b g d e z e zh t ch y zh i sh l ny"),
   (0x1054, "x d c j k l h q ao ch ch c m q n dz"),
   (0x1055, "sh j o t f dz ch p gh r s v t sh iw c"),
   (0x1056, "c y p k"),
   (0x1057, "a bb b c ch d dh e e f g ? h hh i ij"),
   (0x1058, "j k l ll m n nj o p q r ? s sh t th"),
   (0x1059, "u v x ? y z ? a bb b c ch d dh e e"),
   (0x105a, "f g ? h hh i ij j k l ll m n nj o p"),
   (0x105b, "q r ? s sh t th u v x ? y z"),
   (0x1078, "aa : . ae b b ? dz dz dz j d d d e e"),
   (0x1079, "fng u g g g h h h j ls lz l l l lzh lzh"),
   (0x107a, "y y o oe o q r r r r r tc ts ts ch t"),
   (0x107b, "v ? y ? ? @ | || |= ? s"),
   (0x1080, "a e i o u ja ? ? jo ? ka ke ki ko ku la"),
   (0x1081, "le li lo lu ma me mi mo mu na ne ni no nu pa pe"),
   (0x1082, "pi po pu ra re ri ro ru sa se si so su ta te ti"),
   (0x1083, "to tu wa we wi wo ? xa xe ? ? ? za ? ? zo"),
   (0x1084, "' b g d h w z h t y k l m n s '"),
   (0x1085, "p s q r sh t ? ? 1 2 3 10 20 100 1000 10000"),
   (0x1086, "' b g d h w z h t y k l m n n s"),
   (0x1087, "' p s q r sh t ? ? 1 2 3 4 5 10 20"),
   (0x1088, "' ' b b g d h h w z h t y y k k"),
   (0x1089, "l l m m n n s ' p s q r sh sh t"),
   (0x108a, "? ? ? ? ? ? ? 1 2 3 4 4 5 10 20 100"),
   (0x108e, "' b g d h w ? h t y k l m n s"),
   (0x108f, "p s q ? sh t ? ? ? ? ? 1 5 10 20 100"),
   (0x1090, "' b g d h w z h t y k l m n s '"),
   (0x1091, "p s q r sh t 1 10 20 100 2 3"),
   (0x1098, "a e i o y w b b p m n n ne ne r r"),
   (0x1099, "l kh h s s se k q t t te te to d"),
   (0x109a, "a e i o y w b p m n ne r l kh h s"),
   (0x109b, "s se k q t te to d ? ? ? ? 11 1"),
   (0x109c, "1 2 3 4 5 6 7 8 9 10 20 30 40 50 60 70"),
   (0x109d, "? ? 100 200 300 400 500 600 700 800 900 1000 2000 3000 4000 5000"),
   (0x109e, "6000 7000 8000 9000 10000 20000 30000 40000 50000 60000 70000 80000 90000 100000 " ++
     "200000 300000"),
   (0x109f, "400000 500000 600000 700000 800000 900000 1 2 3 4 5 6 7 8 9 10"),
   (0x10a0, "a i u r ? e o ? ? ? ? ?   m h"),
   (0x10a1, "k kh g gh ? c ch j ? ny t th d dh n t"),
   (0x10a2, "th d dh n p ph b bh m y r l v sh sh s"),
   (0x10a3, "z h t h t vh ? ?    ? ? ? ? "),
   (0x10a4, "1 2 3 4 10 20 100 1000 1/2"),
   (0x10a6, "h l h m q w sh r b t s k n kh s s"),
   (0x10a7, "f ' ' d g d gh t z dh y th z 1 50"),
   (0x10a8, "h l h m q w s r b t s k n kh s s"),
   (0x10a9, "f ' ' d g d gh t z dh y th z 1 10 20"),
   (0x10ac, "' b bh g gh d h w ud z zh j jh h t y"),
   (0x10ad, "k x kh l dh th m n s ' ' p f s q x"),
   (0x10ae, "qh r sh sh t   ? ? ? ? 1 5 10 20 100"),
   (0x10b0, "a a a a a a e e e e o o i i u u"),
   (0x10b1, "k x xy xv g g gh c j t th d dh t p f"),
   (0x10b2, "b bh ng ngy ngv n ny n m hm y y v r l s"),
   (0x10b3, "z sh zh shy sh h"),
   (0x10b4, "' b g d h w z h t y k l m n s '"),
   (0x10b5, "p s q r sh t ? ? 1 2 3 4 10 20 100 1000"),
   (0x10b6, "' b g d h w z h t y k l m n s p"),
   (0x10b7, "s sh t ? ? ? ? ? 1 2 3 4 10 20 100 1000"),
   (0x10b8, "' b g d h w z h y k l m n s p s"),
   (0x10b9, "sh t"),
   (0x10ba, "? ? ? ? ? ? ? ? ? 1 2 3 4 10 20 100"),
   (0x10c0, "a a a i i e o o o b b b b g g g"),
   (0x10c1, "g d d d z z y y y y k k k k l l"),
   (0x10c2, "l lt m n n n nt nt nch nch ny ny ng ? ng p"),
   (0x10c3, "op ich ch ch q q q q q q r r r s s sh"),
   (0x10c4, "sh sh sh t t t t ot bash"),
   (0x10c8, "a a b mb c nc cs d nd e e e f g gy h"),
   (0x10c9, "i i j k k nk l ly m n ny o o o o o"),
   (0x10ca, "p mp r r s sz t nt ty ch u u u u v z"),
   (0x10cb, "zs ? us"),
   (0x10cc, "a a b mb c nc cs d nd e e e f g gy h"),
   (0x10cd, "i i j k k nk l ly m n ny o o o o o"),
   (0x10ce, "p mp r r s sz t nt ty ch u u u u v z"),
   (0x10cf, "zs ? us ? ? ? ? ? ? ? 1 5 10 50 100 1000"),
   (0x10d0, "a b p t t j c h kh f d d r r z s"),
   (0x10d1, "sh k g l m n w w y y ng ny v a i u"),
   (0x10d2, "e o  n    "),
   (0x10d3, "0 1 2 3 4 5 6 7 8 9"),
   (0x10e6, "1 2 3 4 5 6 7 8 9 10 20 30 40 50 60 70"),
   (0x10e7, "80 90 100 200 300 400 500 600 700 800 900 1/2 1/4 1/3 2/3"),
   (0x10e8, "' b p ph th s c ch chh h x d z r rh z"),
   (0x10e9, "j s sh s d t z ' gh f v v q k kh g"),
   (0x10ea, "l m n u w o e h y e"),
   (0x10eb, "l y"),
   (0x10f0, "' ' b b g h h w z h y k l m n n"),
   (0x10f1, "n s ' ' p s s s r sh t t t 1 2 3"),
   (0x10f2, "4 5 10 20 30 100 1/2"),
   (0x10f3, "' b g h w z h y k l m n s ' p s"),
   (0x10f4, "r sh t f l sh          "),
   (0x10f5, " 1 10 20 100"),
   (0x10f7, "' b gh w z h y k l m n s p s r sh"),
   (0x10f8, "t l    "),
   (0x10fb, "' ' b g d h w w z h y k l m n s"),
   (0x10fc, "' p r sh t 1 2 3 4 10 20 100"),
   (0x10fe, "' b g d h w z h t y k l m n s '"),
   (0x10ff, "p s q r sh t zy"),
   (0x1100, "m m h h h a a i i u u r r l l e"),
   (0x1101, "ai o au k kh g gh ng c ch j jh ny t th d"),
   (0x1102, "dh n t th d dh n p ph b bh m y r l v"),
   (0x1103, "sh sh s h l l r n a a i i u u r r"),
   (0x1104, "l l e ai o au "),
   (0x1105, "? ? 1 2 3 4 5 6 7 8 9 10 20 30 40 50"),
   (0x1106, "60 70 80 90 100 1000 0 1 2 3 4 5 6 7 8 9"),
   (0x1107, " e o e o l"),
   (0x1108, "m m h a a i i u u e ai o au k kh g"),
   (0x1109, "gh ng c ch j jh ny t th d d dh rh n t th"),
   (0x110a, "d dh n p ph b bh m y r l v sh sh s h"),
   (0x110b, "a i i u u e ai o au  "),
   (0x110c, "? ? r"),
   (0x110d, "s t b c d g m ng l n v p y r h k"),
   (0x110e, "j ny a e i u o e m"),
   (0x110f, "0 1 2 3 4 5 6 7 8 9"),
   (0x1110, "m ng h a i u e k kh g gh ng c ch j jh"),
   (0x1111, "ny t th d dh n t th d dh n p ph b bh m"),
   (0x1112, "y y r l w s h a i i u u e ai o au"),
   (0x1113, "oi o au   ? 0 1 2 3 4 5 6 7 8 9"),
   (0x1114, "? ? ? ? lh a ei v"),
   (0x1115, "a i u e o k kh g gh c ch j jh ny t th"),
   (0x1116, "d dh n t th d dh n p ph b bh m r l v"),
   (0x1117, "s h r  ? ? shri"),
   (0x1118, "m m h a a i i u u r r l l e ai o"),
   (0x1119, "au k kh g gh ng c ch j jh ny t th d dh n"),
   (0x111a, "t th d dh n p ph b bh m y r l l v sh"),
   (0x111b, "sh s h a i i u u r r l l e ai o au"),
   (0x111c, " ' h h om ? ? ? ? ?  ? ? ? e m"),
   (0x111d, "0 1 2 3 4 5 6 7 8 9"),
   (0x111e, "? 1 2 3 4 5 6 7 8 9 10 20 30 40 50 60"),
   (0x111f, "70 80 90 100 1000"),
   (0x1120, "a a i u e ai o au k kh g g gh ng c ch"),
   (0x1121, "j j ? ny t th d dh n t th d d dh n p"),
   (0x1122, "ph b b bh m y r l v s h l a i i u"),
   (0x1123, "e ai o au m   ? ? ? ? ? ? ? ? q"),
   (0x1124, "i r"),
   (0x1128, "a i u e k kh g ? gh ? c ch j j ? ny"),
   (0x1129, "t th d d dh n t th d dh n p ph b ? bh"),
   (0x112a, "m y r l v s h r rh"),
   (0x112b, "a a i i u u e ai o au k kh g g gh ng"),
   (0x112c, "c ch j j jh ny t th d d r dh n t th d"),
   (0x112d, "dh n p ph b b bh m y r l v sh s h m"),
   (0x112e, "a i i u u e ai o au  "),
   (0x112f, "0 1 2 3 4 5 6 7 8 9"),
   (0x1130, "m m m h ? a a i i u u r l ? ? e"),
   (0x1131, "ai ? ? o au k kh g gh ng c ch j jh ny t"),
   (0x1132, "th d dh n t th d dh n ? p ph b bh m y"),
   (0x1133, "r ? l l ? v sh sh s h ? m  ' a i"),
   (0x1134, "i u u r r ? ? e ai ? ? o au "),
   (0x1135, "om ? ? ? ? ? ? ? ? ? ? ? ? ? m m"),
   (0x1136, "r l l l ? ? 0 1 2 3 4 5 6"),
   (0x1137, "a k n v p"),
   (0x1140, "a a i i u u r r l l e ai o au k kh"),
   (0x1141, "g gh ng ngh c ch j jh ny nyh t th d dh n t"),
   (0x1142, "th d dh n nh p ph b bh m mh y r rh l lh"),
   (0x1143, "w sh sh s h a i i u u r r l l e ai"),
   (0x1144, "o au  m m h  ' m om"),
   (0x1145, "0 1 2 3 4 5 6 7 8 9 ? ? ? ? ? m"),
   (0x1146, "h h"),
   (0x1148, "? a a i i u u r r l l e ai o au k"),
   (0x1149, "kh g gh ng c ch j jh ny t th d dh n t th"),
   (0x114a, "d dh n p ph b bh m y r l v sh sh s h"),
   (0x114b, "a i i u u r r l l e e ai o o au m"),
   (0x114c, "m h   ' ? ? om"),
   (0x114d, "0 1 2 3 4 5 6 7 8 9"),
   (0x1158, "a a i i u u r r l l e ai o au k kh"),
   (0x1159, "g gh ng c ch j jh ny t th d dh n t th d"),
   (0x115a, "dh n p ph b bh m y r l v sh sh s h a"),
   (0x115b, "i i u u r r ? ? e ai o au m m h "),
   (0x115c, ""),
   (0x115d, "? ? ? ? ? ? ? ? i i i u u u"),
   (0x1160, "a a i i u u r r l l e ai o au k kh"),
   (0x1161, "g gh ng c ch j jh ny t th d dh n t th d"),
   (0x1162, "dh n p ph b bh m y r l v sh sh s h l"),
   (0x1163, "a i i u u r r l l e ai o au m h "),
   (0x1164, ""),
   (0x1165, "0 1 2 3 4 5 6 7 8 9"),
   (0x1168, "a a i i u u e ai o au k kh g gh ng c"),
   (0x1169, "ch j jh ny t th d dh n t th d dh n p ph"),
   (0x116a, "b bh m y r l v sh s h r m h a i i"),
   (0x116b, "u u e ai o au   kh"),
   (0x116c, "0 1 2 3 4 5 6 7 8 9"),
   (0x1170, "k kh ng n t t p ph b m j ch th r l s"),
   (0x1171, "ny h a d dh g g gh bh jh b ? ? l r r"),
   (0x1172, "a a i i u u e aw o ai am "),
   (0x1173, "0 1 2 3 4 5 6 7 8 9 10 20"),
   (0x1174, "c t th d dh n l"),
   (0x1180, "a a i i u u e ai o au k kh g gh ng c"),
   (0x1181, "ch j jh ny t th d dh n t th d dh n p ph"),
   (0x1182, "b bh m y r l v sh sh s h r a i i u"),
   (0x1183, "u r r e ai o au m h  "),
   (0x118a, "ng a w y y y i u e o ng g k ny y c"),
   (0x118b, "n d t n d t m b p hy h h r s s v"),
   (0x118c, "ng a w y y y i u e o ng g k ny y c"),
   (0x118d, "n d t n d t m b p hy h h r s s v"),
   (0x118e, "0 1 2 3 4 5 6 7 8 9 10 20 30 40 50 60"),
   (0x118f, "70 80 90 ? ? ? ? ? ? ? ? ? ? ? ? om"),
   (0x1190, "a a i i u u e ? ? o ? ? k kh g gh"),
   (0x1191, "ng c ch j ? ny t ? d dh n t th d dh n"),
   (0x1192, "p ph b bh m y y r l v sh sh s h l z"),
   (0x1193, "a i i u u e ? ai o ? ? m m   n"),
   (0x1194, "y r r "),
   (0x1195, "0 1 2 3 4 5 6 7 8 9"),
   (0x119a, "a a i i u u r r ? ? e ai o au k kh"),
   (0x119b, "g gh ng c ch j jh ny t th d dh n t th d"),
   (0x119c, "dh n p ph b bh m y r l v sh sh s h l"),
   (0x119d, "r a i i u u r r ? ? e ai o au m h"),
   (0x119e, " ' ? ? e"),
   (0x11a0, "a i ue u e oe o ai au i  k kh g gh ng"),
   (0x11a1, "c ch j ny t th d dh n t th d dh n p ph"),
   (0x11a2, "b bh m ts tsh dz dzh zh z ' y r l v sh sh"),
   (0x11a3, "s h ksh   m m ? m h r y r l v "),
   (0x11a5, "a i ue u e o oe ai au r l  k kh g gh"),
   (0x11a6, "ng c ch j jh ny t th d dh n t th d dh n"),
   (0x11a7, "p ph b bh m ts tsh dz zh z ' y r l v sh"),
   (0x11a8, "sh s h ksh h h r l sh s g k ng d n b"),
   (0x11a9, "m r l sh s ' m h  "),
   (0x11ab, "nngi hii ho hoo ha haa shri shrii shro shroo shra shraa spe spi spo spa"),
   (0x11ac, "p k l m d z v ng h g kh s b c t th"),
   (0x11ad, "n ph r f ch a e i o u ua ia p k t m"),
   (0x11ae, "n l w ng y"),
   (0x11b0, "         "),
   (0x11c0, "a a i i u u r r l ? e ai o au k kh"),
   (0x11c1, "g gh ng c ch j jh ny t th d dh n t th d"),
   (0x11c2, "dh n p ph b bh m y r l v sh sh s h a"),
   (0x11c3, "i i u u r r l ? e ai o au m m h "),
   (0x11c4, "'"),
   (0x11c5, "0 1 2 3 4 5 6 7 8 9 1 2 3 4 5 6"),
   (0x11c6, "7 8 9 10 20 30 40 50 60 70 80 90"),
   (0x11c7, "? ? k kh g ng c ch j ny t th d n p ph"),
   (0x11c8, "b m ts tsh dz w zh z ' y r l sh s h a"),
   (0x11c9, "? ? k kh g ng c ch j ny t th d n p ph"),
   (0x11ca, "b m ts tsh dz w zh z ? y r l sh s h a"),
   (0x11cb, "a i u e o m m"),
   (0x11d0, "a a i i u u e ? ai o ? au k kh g gh"),
   (0x11d1, "ng c ch j jh ny t th d dh n t th d dh n"),
   (0x11d2, "p ph b bh m y r l v sh sh s h l ksh jny"),
   (0x11d3, "tr a i i u u r ? ? ? e ? ai o ? au"),
   (0x11d4, "m h  ?   r r"),
   (0x11d5, "0 1 2 3 4 5 6 7 8 9"),
   (0x11d6, "a a i i u u ? e ai ? o au y v b bh"),
   (0x11d7, "m k kh t th l g gh d dh n c ch t th l"),
   (0x11d8, "j jh d dh ng p ph h r s a i i u u"),
   (0x11d9, "e ai ? o au m h  om"),
   (0x11da, "0 1 2 3 4 5 6 7 8 9"),
   (0x11ee, "k g ng p b m t d n c j ny y r l v"),
   (0x11ef, "s a ? i u e o"),
   (0x11f0, "m m r h a a i i u u r r l l e ai"),
   (0x11f1, "o ? k kh g gh ng c ch j jh ny t th d dh"),
   (0x11f2, "n t th d dh n p ph b bh m y r l w sh"),
   (0x11f3, "sh s h jny a a i i u u r ? ? ? e ai"),
   (0x11f4, "eu  "),
   (0x11f5, "0 1 2 3 4 5 6 7 8 9"),
   (0x11fb, "yh"),
   (0x11fc, "1/320 1/160 1/80 1/64 1/40 1/32 3/80 3/64 1/20 1/16 1/16 1/10 1/8 3/20 3/16 1/5"),
   (0x11fd, "1/4 1/2 1/2 3/4 1/320"),
   (0x1240, "2 3 4 5 6 7 8 9 3 4 5 6 7 8 9 4"),
   (0x1241, "5 6 7 8 9 1 2 3 4 5 6 7 8 9 1 2"),
   (0x1242, "3 4 5 2 3 3 4 5 6 7 8 9 1 2 3 3"),
   (0x1243, "4 5 216000 432000 1 2 3 3 4 5 3 3 4 4 4 4"),
   (0x1244, "6 7 7 7 8 8 9 9 9 9 2 3 4 5 6 1"),
   (0x1245, "2 3 4 4 5 5 2 3 1 2 1/3 2/3 5/6 1/3 2/3 1/8"),
   (0x1246, "1/4 1/6 1/4 1/4 1/2 1/3 2/3 40 50 4 5 6 7 8 9"),
   (0x12f9, "1 2 4 5 6 7 8 9 10 11 12 12 13 15 17 19"),
   (0x12fa, "21 23 24 25 26 27 28 29 30 33 34 35 36 37 38 39"),
   (0x12fb, "40 41 44 46 47 49 50 51 52 53 54 55 56 58 59 60"),
   (0x12fc, "61 62 63 64 66 67 68 69 70 71 72 73 74 75 75 76"),
   (0x12fd, "78 79 80 81 82 83 84 85 86 87 88 89 90 91 92 94"),
   (0x12fe, "95 96 97 98 99 100 101 102 103 104 105 107 108 109 110 112"),
   (0x12ff, "114"),
   (0x1680, "mfon fon pipaemgbiee pipaemba mfon shuenshuet mfon mfon nji pipaemgbiee pipaemba " ++
     "maembgbiee maemba ngangu maemveux mansuae"),
   (0x1681, "mveuaengam seunyam ntoqpen keukeutnda nkindi suu ngkuenzeum lapaq kut mfaa " ++
     "maekeup pashae gheuaerae pamshae nggeuaet meut"),
   (0x1682, "nae gheuaegheuae ntaa sisa mgbasa meunjomndeuq moompuq kafa leeraewa leeraewa pet " ++
     "maemkpen nika pup tuaep luaep"),
   (0x1683, "sonjam teuteuwen maenyi ket ndaanggeuaet kuoq moomeut shum lommae firi rom kpoq " ++
     "soq pieet shirae ntap"),
   (0x1684, "yum mongkeuaeq paarae nkaarae unknown nggen maesi njam mbanyi nyet teuaen sot " ++
     "paam nshiee maem nyi"),
   (0x1685, "kaq nsha vee lu nen naq mbaq nshuet maemgbiee siee tu nteum maelee kieem yeurae " ++
     "mbaarae"),
   (0x1686, "kam peeshi leeraewa nyam sheuoq njaa gheugheuaem pit nsiee njaq sheuaeqtu teuaeq " ++
     "mbaaket nteum keupuq gheughen"),
   (0x1687, "keuyeux laanae parum veum mvop mbu wuaet sakeuae taam meuq ngguoq large mfiyaq " ++
     "sue mbeuri montieen"),
   (0x1688, "nyaemae pungaam nggeet feux mbuoq fee keuaem njeuaena njuqa let nggaam nsen ma " ++
     "kiq ngom maemba"),
   (0x1689, "nza yum wangkuoq nggen ndeuaeree ngkaq gharae mbeekeet gbayi meun mbit mbeum " ++
     "pirieen ndombu cabbage-tree keusheuaep"),
   (0x168a, "ghap keukaq muomae nzeum mbue nseuaen mbit yeuq kparaq kaa seux ndida taashae " ++
     "njueq yue suaet"),
   (0x168b, "nyam veux nansanaq keuaeri ntaa ngguon lap mbirieen mgbasaq nteungba teuteux " ++
     "nggum fue ndeut nsa nshaq"),
   (0x168c, "bung veuaepen mberae ru njaem lam tituaep ngom njeeee ket nggu maesi mbuaem lu " ++
     "kut njam"),
   (0x168d, "ngom wup nggueet nsom nten nkaarae nsun ndam nsiee yaa ndap shueq setfon mbi " ++
     "maemba mbanyi"),
   (0x168e, "keuseux mbeux keum picket yuwoq njeux miee muae shiq law fatigue ngaq naq liq pin " ++
     "pen"),
   (0x168f, "tet mbuo wap nji mfon njiee liee njeut nshee nggaamae nyam wuaen ngkun shee ngkap " ++
     "keuaetmeun"),
   (0x1690, "teut sheuae njap sue ket yaemmae kuom sap mfeut ndeux maleeri meut seuaeq yen " ++
     "njeuaem mbuae"),
   (0x1691, "ngkeuri tu ghaa ngkyee feufeuaet ndee mgbofum leuaep ndon moni mgbeun puut mgbiee " ++
     "mfo lum nsieep"),
   (0x1692, "mbaa kwaet nyet teuaen sot yuwoq keum raem teeee ngkeuaeq mfeuae nsieet keup pip " ++
     "peutae nyue"),
   (0x1693, "let nggaam mfiee nggwaen yuom pap yuop ndam nteum suae kun nggeux ngkiee tuot " ++
     "meun kuq"),
   (0x1694, "nsum teun maenjet nggap leum ngguom nshut njueq gheuae ku old tae toq nyi rii " ++
     "leeee"),
   (0x1695, "meeee m suu mu shii sheux kyee nu shu ntee pee ni shoq puq mvop loq"),
   (0x1696, "much ti ntuu seven saq faa ndap toon mbeum lap vom loon paa som raq nshuop"),
   (0x1697, "ndun puae tam ngka kpeux wuo see nggeuaet paam too kuop lom nshiee ngop maem " ++
     "ngkeux"),
   (0x1698, "ngoq nshue rimgba njeux peem saa nggurae mgba gheux ngkeuaem njaemli map loot " ++
     "nggeeee ndiq nteum"),
   (0x1699, "set pum softness nyam yiee gheun tuae yeuae po tumae keuae suaen teuaeq veuae " ++
     "weux laam"),
   (0x169a, "pu taaq ghaamae ngeureut sheuaeq mgben mbee nzaq nkom gbet tum kuet yap cleaver " ++
     "yit mfeuq"),
   (0x169b, "ndiaq pieeq yueq leuaem fue gbeux ngkup ket mae ngkaami ghet fa ntum peut yeum " ++
     "nggeuae"),
   (0x169c, "between nzuq poon miee fuet nae muae gheuae i mvi puaq ngkum kut piet ntap yeuaet"),
   (0x169d, "nggup people call fom njee a toq o i laq plural taa taq house shiq yeux"),
   (0x169e, "nguae yuaen swimming cover yuq yun keux peux epoch pue wue fee vee lu mi reux"),
   (0x169f, "rae nguaet nga sho shoq remedy na pi loq ko men ma maq teu ki mon"),
   (0x16a0, "ten faq ghom ka u ku ee ree tae nyi la rii riee meeee taa ndaa"),
   (0x16a1, "njaem m suu shii si seux kyee ket nuae nu njuae yoq shu ya nsha peux"),
   (0x16a2, "ntee wue pee ru ni reux ken ngkwaen ngga sho puae fom wa li loq ko"),
   (0x16a3, "mben ren ma mo mbaa tet kpa samba vueq"),
   (0x16a4, "t ng y m b d a ph kh h d ch k l m n"),
   (0x16a5, "p o o r sh th e w e k l l h r t"),
   (0x16a6, "0 1 2 3 4 5 6 7 8 9"),
   (0x16a7, "? ? ? ? ? ? ? ? vz vc vq vx"),
   (0x16a9, "ng ? ? ? ? ? ? ? ? ? ? ? mz mc mq mx"),
   (0x16aa, "k kh g ng s y w p ny ph b m n h l ht"),
   (0x16ab, "t d r nh sh c ts gh htt th x f dh ch z"),
   (0x16ac, "0 1 2 3 4 5 6 7 8 9"),
   (0x16ad, "n k s f mb y g d kp j hw w z gb d c"),
   (0x16ae, "hw t b v y p w a o o u e e i"),
   (0x16b0, "eeb eev ib iv aub auv ub uv eb ev aib aiv oob oov awb awv"),
   (0x16b1, "uab uav ob ov iab iav ab av wb wv aab aav v nts l h"),
   (0x16b2, "nl r nk qh y hl m ch nch hn plh nth n r ' c"),
   (0x16b5, "0 1 2 3 4 5 6 7 8 9"),
   (0x16e4, "m s v w a z kp p t g f i k a j e"),
   (0x16e5, "b c u yu l q ? ? x d oe n r o ai y"),
   (0x16e6, "m s v w a z kp p t g f i k a j e"),
   (0x16e7, "b c u yu l q ? ? x d oe n r o ai y"),
   (0x16e8, "0 1 2 3 4 5 6 7 8 9 10 11 12 13 14 15"),
   (0x16e9, "16 17 18 19 1 2 3"),
   (0x16f0, "p b p pl m mh m f v vf t d tt t tt dd"),
   (0x16f1, "n nh nn n nn nnh l ly lh lhy tlh dlh tlhy dlhy k g"),
   (0x16f2, "k q qg ng ngh ng h x gh ghh tss dzz ny nyh tsh dzh"),
   (0x16f3, "tsh dzh tsh sh ss zh zsh ts dz ts s z zs zz zzs zz"),
   (0x16f4, "zzy zzsy w ah hh bri syi dzyi te tse rte"),
   (0x16f5, "nasalization ? ? ? a a ahh an ang o o wo w e en eng"),
   (0x16f6, "oey i ia ian iang io ie i iu ing u ua uan uang u uei"),
   (0x16f7, "ung y yi ae aee err ? er ? ai ei au ou n ng uog"),
   (0x16f8, "yui og oer vw ig ea iong ui"),
   (0x1b00, "e ye a a a a i i i i u u u u u e"),
   (0x1b01, "e e e e o o o ka ka ka ka ka ka ka ka ka"),
   (0x1b02, "ka ka ka ki ki ki ki ki ki ki ki ku ku ku ku ku"),
   (0x1b03, "ku ku ke ke ke ke ke ke ko ko ko ko sa sa sa sa"),
   (0x1b04, "sa sa sa sa si si si si si si su su su su su su"),
   (0x1b05, "su su se se se se se so so so so so so so ta ta"),
   (0x1b06, "ta ta ti ti ti ti ti ti ti tu tu tu tu tu te te"),
   (0x1b07, "te te te te te te te to to to to to to to na na"),
   (0x1b08, "na na na na na na na ni ni ni ni ni ni ni ni nu"),
   (0x1b09, "nu nu ne ne ne ne ne ne ne no no no no no ha ha"),
   (0x1b0a, "ha ha ha ha ha ha ha ha ha hi hi hi hi hi hi hi"),
   (0x1b0b, "hu hu hu he he he he he he he ho ho ho ho ho ho"),
   (0x1b0c, "ho ho ma ma ma ma ma ma ma mi mi mi mi mi mi mi"),
   (0x1b0d, "mu mu mu mu me me me mo mo mo mo mo mo ya ya ya"),
   (0x1b0e, "ya ya ya yu yu yu yu yo yo yo yo yo yo ra ra ra"),
   (0x1b0f, "ra ri ri ri ri ri ri ri ru ru ru ru ru ru re re"),
   (0x1b10, "re re ro ro ro ro ro ro wa wa wa wa wa wi wi wi"),
   (0x1b11, "wi wi we we we we wo wo wo wo wo wo wo n n wu"),
   (0x1b12, "yi ye wu"),
   (0x1b13, "? ? ko"),
   (0x1b15, "wi we wo ? ? ko"),
   (0x1b16, "? ? ? ? wi we wo n"),
   (0x1d2c, "0 1 2 3 4 5 6 7 8 9 10 11 12 13 14 15"),
   (0x1d2d, "16 17 18 19"),
   (0x1d2e, "0 1 2 3 4 5 6 7 8 9 10 11 12 13 14 15"),
   (0x1d2f, "16 17 18 19"),
   (0x1d36, "1 2 3 4 5 6 7 8 9 10 20 30 40 50 60 70"),
   (0x1d37, "80 90 1 2 3 4 5 1 5"),
   (0x1d40, "A B C D E F G H I J K L M N O P"),
   (0x1d41, "Q R S T U V W X Y Z a b c d e f"),
   (0x1d42, "g h i j k l m n o p q r s t u v"),
   (0x1d43, "w x y z A B C D E F G H I J K L"),
   (0x1d44, "M N O P Q R S T U V W X Y Z a b"),
   (0x1d45, "c d e f g ? i j k l m n o p q r"),
   (0x1d46, "s t u v w x y z A B C D E F G H"),
   (0x1d47, "I J K L M N O P Q R S T U V W X"),
   (0x1d48, "Y Z a b c d e f g h i j k l m n"),
   (0x1d49, "o p q r s t u v w x y z A ? C D"),
   (0x1d4a, "? ? G ? ? J K ? ? N O P Q ? S T"),
   (0x1d4b, "U V W X Y Z a b c d ? f ? h i j"),
   (0x1d4c, "k l m n ? p q r s t u v w x y z"),
   (0x1d4d, "A B C D E F G H I J K L M N O P"),
   (0x1d4e, "Q R S T U V W X Y Z a b c d e f"),
   (0x1d4f, "g h i j k l m n o p q r s t u v"),
   (0x1d50, "w x y z A B ? D E F G ? ? J K L"),
   (0x1d51, "M N O P Q ? S T U V W X Y ? a b"),
   (0x1d52, "c d e f g h i j k l m n o p q r"),
   (0x1d53, "s t u v w x y z A B ? D E F G"),
   (0x1d54, "I J K L M ? O ? ? ? S T U V W X"),
   (0x1d55, "Y ? a b c d e f g h i j k l m n"),
   (0x1d56, "o p q r s t u v w x y z A B C D"),
   (0x1d57, "E F G H I J K L M N O P Q R S T"),
   (0x1d58, "U V W X Y Z a b c d e f g h i j"),
   (0x1d59, "k l m n o p q r s t u v w x y z"),
   (0x1d5a, "A B C D E F G H I J K L M N O P"),
   (0x1d5b, "Q R S T U V W X Y Z a b c d e f"),
   (0x1d5c, "g h i j k l m n o p q r s t u v"),
   (0x1d5d, "w x y z A B C D E F G H I J K L"),
   (0x1d5e, "M N O P Q R S T U V W X Y Z a b"),
   (0x1d5f, "c d e f g h i j k l m n o p q r"),
   (0x1d60, "s t u v w x y z A B C D E F G H"),
   (0x1d61, "I J K L M N O P Q R S T U V W X"),
   (0x1d62, "Y Z a b c d e f g h i j k l m n"),
   (0x1d63, "o p q r s t u v w x y z A B C D"),
   (0x1d64, "E F G H I J K L M N O P Q R S T"),
   (0x1d65, "U V W X Y Z a b c d e f g h i j"),
   (0x1d66, "k l m n o p q r s t u v w x y z"),
   (0x1d67, "A B C D E F G H I J K L M N O P"),
   (0x1d68, "Q R S T U V W X Y Z a b c d e f"),
   (0x1d69, "g h i j k l m n o p q r s t u v"),
   (0x1d6a, "w x y z i j ? ? A B G D E Z E Th"),
   (0x1d6b, "I K L M N X O P R Th S T U Ph Kh Ps"),
   (0x1d6c, "O d a b g d e z e th i k l m n x"),
   (0x1d6d, "o p r s s t u ph kh ps o d e th k ph"),
   (0x1d6e, "r p A B G D E Z E Th I K L M N X"),
   (0x1d6f, "O P R Th S T U Ph Kh Ps O d a b g d"),
   (0x1d70, "e z e th i k l m n x o p r s s t"),
   (0x1d71, "u ph kh ps o d e th k ph r p A B G D"),
   (0x1d72, "E Z E Th I K L M N X O P R Th S T"),
   (0x1d73, "U Ph Kh Ps O d a b g d e z e th i k"),
   (0x1d74, "l m n x o p r s s t u ph kh ps o d"),
   (0x1d75, "e th k ph r p A B G D E Z E Th I K"),
   (0x1d76, "L M N X O P R Th S T U Ph Kh Ps O d"),
   (0x1d77, "a b g d e z e th i k l m n x o p"),
   (0x1d78, "r s s t u ph kh ps o d e th k ph r p"),
   (0x1d79, "A B G D E Z E Th I K L M N X O P"),
   (0x1d7a, "R Th S T U Ph Kh Ps O d a b g d e z"),
   (0x1d7b, "e th i k l m n x o p r s s t u ph"),
   (0x1d7c, "kh ps o d e th k ph r p W w ? ? 0 1"),
   (0x1d7d, "2 3 4 5 6 7 8 9 0 1 2 3 4 5 6 7"),
   (0x1d7e, "8 9 0 1 2 3 4 5 6 7 8 9 0 1 2 3"),
   (0x1d7f, "4 5 6 7 8 9 0 1 2 3 4 5 6 7 8 9"),
   (0x1df0, "fng g g k l lzh y ng r t ? sh sh t ? c"),
   (0x1df1, "k l j l ng r r ch zh j i o ch c s"),
   (0x1df2, "? ? ? ? ? d l n r s t"),
   (0x1e00, "a b v g d e zh ? z i i i dj k l m"),
   (0x1e01, "n o p r s t u f kh ? ? sht ts ch sh '"),
   (0x1e02, "' ye ? ju e ? jo je o jo f"),
   (0x1e03, "a b v g d e zh z i k l m o p r s"),
   (0x1e04, "t u f kh ts ch sh y e yu dz g i j u k"),
   (0x1e05, "zh a b v g d e zh z i k l o p s u"),
   (0x1e06, "f kh ts ch sh ' y g i dz dzh u zh ch y"),
   (0x1e10, "m ts nt t h n x nk c l s z nc nts k d"),
   (0x1e11, "ny nr v ntx tx f r q y nq p xy np dl npl h"),
   (0x1e12, "ml pl g r a a i u o o e e w"),
   (0x1e14, "0 1 2 3 4 5 6 7 8 9"),
   (0x1e29, "p b t d k g m n ng s ch y w j h r"),
   (0x1e2a, "l i i iu iu u e e eo eo o ae ae a "),
   (0x1e2c, "a a b c d g y ph l n p t th f s sh"),
   (0x1e2d, "j z w v k o au r m kh h e i ng u lh"),
   (0x1e2e, "ts tr ong ang ang ing on en an ny uen yi"),
   (0x1e2f, "0 1 2 3 4 5 6 7 8 9"),
   (0x1e4d, "o p l y ng a j b ny h i s d t h u"),
   (0x1e4e, "c d k r e n g m n t l"),
   (0x1e4f, "0 1 2 3 4 5 6 7 8 9"),
   (0x1e7e, "hye hyu hyi hya hye hyi hyo ? hwe hwi hwe hwi ? mwi mwe"),
   (0x1e7f, "qwi qwe qwi bwi bwe kwi kwe kwi gwi gwe gwi fwi fwe pwi pwe"),
   (0x1e80, "ki ka ku ke ke ko ko kua wi wa wu we we wo wo wui"),
   (0x1e81, "wei wvi wva wve mi ma mu me mo mua mue bi ba bu be be"),
   (0x1e82, "bo bo i a u e e o o ei i i a e si sa"),
   (0x1e83, "su se se so so sia li la lu le le lo lo le di da"),
   (0x1e84, "du de do do ti ta tu te te to to ji ja ju je je"),
   (0x1e85, "jo jo jo yi ya yu ye ye yo yo fi fa fu fe fe fo"),
   (0x1e86, "fo fua fa ni na nu ne no hi ha hu he he ho ho heei"),
   (0x1e87, "hoou hi ha hu he ho hua nggi ngga nggu ngge ngge nggo nggo ngga nggua"),
   (0x1e88, "ngge nggo nggo gi ga gu ge guei gua nge ngo ngua pi pa pu pe"),
   (0x1e89, "pe po po mbi mba mbu mbe mbe mbe mbo mbo mbu mbe mbo mbo kpi"),
   (0x1e8a, "kpa kpu kpe kpe kpo kpo gbi gba gbu gbe gbe gbo gbo ra ndi nda"),
   (0x1e8b, "ndu nde nde ndo ndo nja nju nje njo vi va vu ve ve vo vo"),
   (0x1e8c, "nyi nya nyu nye nyo ? ? 1 2 3 4 5 6 7 8 9"),
   (0x1e8d, "      "),
   (0x1e90, "a d l m b s p bh r e f i o dh yh w"),
   (0x1e91, "n k y u j ch h q g ny t nh v kh gb z"),
   (0x1e92, "kp sh a d l m b s p bh r e f i o dh"),
   (0x1e93, "yh w n k y u j ch h q g ny t nh v kh"),
   (0x1e94, "gb z kp sh        "),
   (0x1e95, "0 1 2 3 4 5 6 7 8 9"),
   (0x1ec7, "? 1 2 3 4 5 6 7 8 9 10 20 30 40 50 60"),
   (0x1ec8, "70 80 90 100 200 300 400 500 600 700 800 900 1000 2000 3000 4000"),
   (0x1ec9, "5000 6000 7000 8000 9000 10000 20000 30000 40000 50000 60000 70000 80000 90000 " ++
     "100000 200000"),
   (0x1eca, "100000 10000000 20000000 1 2 3 4 5 6 7 8 9 ? 1/4 1/2 3/4"),
   (0x1ecb, "? 1 2 10000 100000"),
   (0x1ed0, "? 1 2 3 4 5 6 7 8 9 10 20 30 40 50 60"),
   (0x1ed1, "70 80 90 100 200 300 400 500 600 700 800 900 1000 2000 3000 4000"),
   (0x1ed2, "5000 6000 7000 8000 9000 10000 20000 30000 40000 50000 60000 70000 80000 90000 ? " ++
     "2"),
   (0x1ed3, "3 4 5 6 7 8 9 10 400 600 2000 10000 1/2 1/6"),
   (0x1ee0, "a b j d ? w z h t y k l m n s '"),
   (0x1ee1, "f s q r sh t th kh dh d z gh ? n f"),
   (0x1ee2, "? b j ? h ? ? h ? y k l m n s '"),
   (0x1ee3, "f s q ? sh t th kh ? d ? gh"),
   (0x1ee4, "? ? j ? ? ? ? h ? y ? l ? n s '"),
   (0x1ee5, "? s q ? sh ? ? kh ? d ? gh ? n"),
   (0x1ee6, "? b j ? h ? ? h t y k ? m n s '"),
   (0x1ee7, "f s q ? sh t th kh ? d z gh ? ? f"),
   (0x1ee8, "a b j d h w z h t y ? l m n s '"),
   (0x1ee9, "f s q r sh t th kh dh d z gh"),
   (0x1eea, "? b j d ? w z h t y ? l m n s '"),
   (0x1eeb, "f s q r sh t th kh dh d z gh")]

end Stencil.Text.Spelling
