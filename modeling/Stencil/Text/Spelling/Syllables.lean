/-!
Spellings of the Yi and Vai syllables, of the scripts up to U+ABFF and of the old Hangul letters
from U+D7B0, in rows of sixteen.
-/
namespace Stencil.Text.Spelling

/-- Rows of spellings under the code point of their first character divided by sixteen. -/
def syllables : List (Nat × String) :=
  [(0xa00, "it ix i ip iet iex ie iep at ax a ap uox uo uop ot"),
   (0xa01, "ox o op ex e w bit bix bi bip biet biex bie biep bat bax"),
   (0xa02, "ba bap buox buo buop bot box bo bop bex be bep but bux bu bup"),
   (0xa03, "burx bur byt byx by byp byrx byr pit pix pi pip piex pie piep pat"),
   (0xa04, "pax pa pap puox puo puop pot pox po pop put pux pu pup purx pur"),
   (0xa05, "pyt pyx py pyp pyrx pyr bbit bbix bbi bbip bbiet bbiex bbie bbiep bbat bbax"),
   (0xa06, "bba bbap bbuox bbuo bbuop bbot bbox bbo bbop bbex bbe bbep bbut bbux bbu bbup"),
   (0xa07, "bburx bbur bbyt bbyx bby bbyp nbit nbix nbi nbip nbiex nbie nbiep nbat nbax nba"),
   (0xa08, "nbap nbot nbox nbo nbop nbut nbux nbu nbup nburx nbur nbyt nbyx nby nbyp nbyrx"),
   (0xa09, "nbyr hmit hmix hmi hmip hmiex hmie hmiep hmat hmax hma hmap hmuox hmuo hmuop hmot"),
   (0xa0a, "hmox hmo hmop hmut hmux hmu hmup hmurx hmur hmyx hmy hmyp hmyrx hmyr mit mix"),
   (0xa0b, "mi mip miex mie miep mat max ma map muot muox muo muop mot mox mo"),
   (0xa0c, "mop mex me mut mux mu mup murx mur myt myx my myp fit fix fi"),
   (0xa0d, "fip fat fax fa fap fox fo fop fut fux fu fup furx fur fyt fyx"),
   (0xa0e, "fy fyp vit vix vi vip viet viex vie viep vat vax va vap vot vox"),
   (0xa0f, "vo vop vex vep vut vux vu vup vurx vur vyt vyx vy vyp vyrx vyr"),
   (0xa10, "dit dix di dip diex die diep dat dax da dap duox duo dot dox do"),
   (0xa11, "dop dex de dep dut dux du dup durx dur tit tix ti tip tiex tie"),
   (0xa12, "tiep tat tax ta tap tuot tuox tuo tuop tot tox to top tex te tep"),
   (0xa13, "tut tux tu tup turx tur ddit ddix ddi ddip ddiex ddie ddiep ddat ddax dda"),
   (0xa14, "ddap dduox dduo dduop ddot ddox ddo ddop ddex dde ddep ddut ddux ddu ddup ddurx"),
   (0xa15, "ddur ndit ndix ndi ndip ndiex ndie ndat ndax nda ndap ndot ndox ndo ndop ndex"),
   (0xa16, "nde ndep ndut ndux ndu ndup ndurx ndur hnit hnix hni hnip hniet hniex hnie hniep"),
   (0xa17, "hnat hnax hna hnap hnuox hnuo hnot hnox hnop hnex hne hnep hnut nit nix ni"),
   (0xa18, "nip niex nie niep nax na nap nuox nuo nuop not nox no nop nex ne"),
   (0xa19, "nep nut nux nu nup nurx nur hlit hlix hli hlip hliex hlie hliep hlat hlax"),
   (0xa1a, "hla hlap hluox hluo hluop hlox hlo hlop hlex hle hlep hlut hlux hlu hlup hlurx"),
   (0xa1b, "hlur hlyt hlyx hly hlyp hlyrx hlyr lit lix li lip liet liex lie liep lat"),
   (0xa1c, "lax la lap luot luox luo luop lot lox lo lop lex le lep lut lux"),
   (0xa1d, "lu lup lurx lur lyt lyx ly lyp lyrx lyr git gix gi gip giet giex"),
   (0xa1e, "gie giep gat gax ga gap guot guox guo guop got gox go gop get gex"),
   (0xa1f, "ge gep gut gux gu gup gurx gur kit kix ki kip kiex kie kiep kat"),
   (0xa20, "kax ka kap kuox kuo kuop kot kox ko kop ket kex ke kep kut kux"),
   (0xa21, "ku kup kurx kur ggit ggix ggi ggiex ggie ggiep ggat ggax gga ggap gguot gguox"),
   (0xa22, "gguo gguop ggot ggox ggo ggop gget ggex gge ggep ggut ggux ggu ggup ggurx ggur"),
   (0xa23, "mgiex mgie mgat mgax mga mgap mguox mguo mguop mgot mgox mgo mgop mgex mge mgep"),
   (0xa24, "mgut mgux mgu mgup mgurx mgur hxit hxix hxi hxip hxiet hxiex hxie hxiep hxat hxax"),
   (0xa25, "hxa hxap hxuot hxuox hxuo hxuop hxot hxox hxo hxop hxex hxe hxep ngiex ngie ngiep"),
   (0xa26, "ngat ngax nga ngap nguot nguox nguo ngot ngox ngo ngop ngex nge ngep hit hiex"),
   (0xa27, "hie hat hax ha hap huot huox huo huop hot hox ho hop hex he hep"),
   (0xa28, "wat wax wa wap wuox wuo wuop wox wo wop wex we wep zit zix zi"),
   (0xa29, "zip ziex zie ziep zat zax za zap zuox zuo zuop zot zox zo zop zex"),
   (0xa2a, "ze zep zut zux zu zup zurx zur zyt zyx zy zyp zyrx zyr cit cix"),
   (0xa2b, "ci cip ciet ciex cie ciep cat cax ca cap cuox cuo cuop cot cox co"),
   (0xa2c, "cop cex ce cep cut cux cu cup curx cur cyt cyx cy cyp cyrx cyr"),
   (0xa2d, "zzit zzix zzi zzip zziet zziex zzie zziep zzat zzax zza zzap zzox zzo zzop zzex"),
   (0xa2e, "zze zzep zzux zzu zzup zzurx zzur zzyt zzyx zzy zzyp zzyrx zzyr nzit nzix nzi"),
   (0xa2f, "nzip nziex nzie nziep nzat nzax nza nzap nzuox nzuo nzox nzop nzex nze nzux nzu"),
   (0xa30, "nzup nzurx nzur nzyt nzyx nzy nzyp nzyrx nzyr sit six si sip siex sie siep"),
   (0xa31, "sat sax sa sap suox suo suop sot sox so sop sex se sep sut sux"),
   (0xa32, "su sup surx sur syt syx sy syp syrx syr ssit ssix ssi ssip ssiex ssie"),
   (0xa33, "ssiep ssat ssax ssa ssap ssot ssox sso ssop ssex sse ssep ssut ssux ssu ssup"),
   (0xa34, "ssyt ssyx ssy ssyp ssyrx ssyr zhat zhax zha zhap zhuox zhuo zhuop zhot zhox zho"),
   (0xa35, "zhop zhet zhex zhe zhep zhut zhux zhu zhup zhurx zhur zhyt zhyx zhy zhyp zhyrx"),
   (0xa36, "zhyr chat chax cha chap chuot chuox chuo chuop chot chox cho chop chet chex che"),
   (0xa37, "chep chux chu chup churx chur chyt chyx chy chyp chyrx chyr rrax rra rruox rruo"),
   (0xa38, "rrot rrox rro rrop rret rrex rre rrep rrut rrux rru rrup rrurx rrur rryt rryx"),
   (0xa39, "rry rryp rryrx rryr nrat nrax nra nrap nrox nro nrop nret nrex nre nrep nrut"),
   (0xa3a, "nrux nru nrup nrurx nrur nryt nryx nry nryp nryrx nryr shat shax sha shap shuox"),
   (0xa3b, "shuo shuop shot shox sho shop shet shex she shep shut shux shu shup shurx shur"),
   (0xa3c, "shyt shyx shy shyp shyrx shyr rat rax ra rap ruox ruo ruop rot rox ro"),
   (0xa3d, "rop rex re rep rut rux ru rup rurx rur ryt ryx ry ryp ryrx ryr"),
   (0xa3e, "jit jix ji jip jiet jiex jie jiep juot juox juo juop jot jox jo jop"),
   (0xa3f, "jut jux ju jup jurx jur jyt jyx jy jyp jyrx jyr qit qix qi qip"),
   (0xa40, "qiet qiex qie qiep quot quox quo quop qot qox qo qop qut qux qu qup"),
   (0xa41, "qurx qur qyt qyx qy qyp qyrx qyr jjit jjix jji jjip jjiet jjiex jjie jjiep"),
   (0xa42, "jjuox jjuo jjuop jjot jjox jjo jjop jjut jjux jju jjup jjurx jjur jjyt jjyx jjy"),
   (0xa43, "jjyp njit njix nji njip njiet njiex njie njiep njuox njuo njot njox njo njop njux"),
   (0xa44, "nju njup njurx njur njyt njyx njy njyp njyrx njyr nyit nyix nyi nyip nyiet nyiex"),
   (0xa45, "nyie nyiep nyuox nyuo nyuop nyot nyox nyo nyop nyut nyux nyu nyup xit xix xi"),
   (0xa46, "xip xiet xiex xie xiep xuox xuo xot xox xo xop xyt xyx xy xyp xyrx"),
   (0xa47, "xyr yit yix yi yip yiet yiex yie yiep yuot yuox yuo yuop yot yox yo"),
   (0xa48, "yop yut yux yu yup yurx yur yyt yyx yy yyp yyrx yyr"),
   (0xa49, "qot li kit nyip cyp ssi ggop gep mi hxit lyr bbut mop yo put hxuo"),
   (0xa4a, "tat ga zup cyt ddur bur gguo nyop tu op jjut zot pyt hmo yit vur"),
   (0xa4b, "shy vep za jo nzup jjy got jjie wo du shur lie cy cuop cip hxop"),
   (0xa4c, "shat zur shop che zziet nbie ke"),
   (0xa4d, "b p ph d t th g k kh j c ch dz ts tsh m"),
   (0xa4e, "n l s zh z ng h x hh f w sh y gh a ae"),
   (0xa4f, "e eu i o u ue uh oe"),
   (0xa50, "ee een hee wee ween pee bhee bee mbee kpee mgbee gbee fee vee tee thee"),
   (0xa51, "dhee dhhee lee ree dee ndee see shee zee zhee cee jee njee yee kee nggee"),
   (0xa52, "gee mee nee nyee i in hi hin wi win pi bhi bi mbi kpi mgbi"),
   (0xa53, "gbi fi vi ti thi dhi dhhi li ri di ndi si shi zi zhi ci"),
   (0xa54, "ji nji yi ki nggi gi mi ni nyi a an ngan ha han wa wan"),
   (0xa55, "pa bha ba mba kpa kpan mgba gba fa va ta tha dha dhha la ra"),
   (0xa56, "da nda sa sha za zha ca ja nja ya ka kan ngga ga ma na"),
   (0xa57, "nya oo oon hoo woo woon poo bhoo boo mboo kpoo mgboo gboo foo voo too"),
   (0xa58, "thoo dhoo dhhoo loo roo doo ndoo soo shoo zoo zhoo coo joo njoo yoo koo"),
   (0xa59, "nggoo goo moo noo nyoo u un hu hun wu wun pu bhu bu mbu kpu"),
   (0xa5a, "mgbu gbu fu vu tu thu dhu dhhu lu ru du ndu su shu zu zhu"),
   (0xa5b, "cu ju nju yu ku nggu gu mu nu nyu o on ngon ho hon wo"),
   (0xa5c, "won po bho bo mbo kpo mgbo gbo gbon fo vo to tho dho dhho lo"),
   (0xa5d, "ro do ndo so sho zo zho co jo njo yo ko nggo go mo no"),
   (0xa5e, "nyo e en ngen he hen we wen pe bhe be mbe kpe kpen mgbe gbe"),
   (0xa5f, "gben fe ve te the dhe dhhe le re de nde se she ze zhe ce"),
   (0xa60, "je nje ye ke ngge nggen ge gen me ne nye ng lengthener"),
   (0xa61, "fa ka soo feeng keeng ting nii bang faa taa dang doong kung tong ? jong"),
   (0xa62, "0 1 2 3 4 5 6 7 8 9 ma do"),
   (0xa64, "Z z Dz dz Dz dz I i Dj dj U u O o ' '"),
   (0xa65, "Y y Ye ye Yu yu Ya ya E e O o Ye ye Yn yn"),
   (0xa66, "Ts ts D d L l M m O o O o O o O"),
   (0xa67, "? ? ? ? ye i yi u ' y ' o"),
   (0xa68, "Dw dw Dzw dzw Zhw zhw Tch tch Dzz dzz T t Tw tw Tsw tsw"),
   (0xa69, "Ts ts Tch tch Hw hw Shw shw Oo oo O o ' ' f ye"),
   (0xa6a, "a ka u ku ee ree tae o nyi i la pa rii riee leeee meeee"),
   (0xa6b, "taa ndaa njaem m suu mu shii si sheux seux kyee ket nuae nu njuae yoq"),
   (0xa6c, "shu yuq ya nsha keux peux njee ntee pue wue pee fee ru lu mi ni"),
   (0xa6d, "reux rae ken ngkwaen ngga nga sho puae fu fom wa na li pi loq ko"),
   (0xa6e, "mben ren men ma ti ki mo mbaa tet kpa ten ntuu samba faamae kovuu koghom"),
   (0xa72, "? ? ' ' ' ' H h tz tz 3 3 4 4 4 4"),
   (0xa73, "f s aa aa ao ao au au av av av av ay ay c c"),
   (0xa74, "k k k k k k l l l l o o o o oo oo"),
   (0xa75, "p p p p p p q q q q r r rum rum v v"),
   (0xa76, "vy vy z z th th th th v v et et is is con con"),
   (0xa77, "us dum lum mum num rum rum tum um d d f f g g g"),
   (0xa78, "l l r r s s t t ? ? ? ' ' h l"),
   (0xa79, "n n c c c h b b f f ae ae oe oe ue ue"),
   (0xa7a, "g g k k n n r r s s h e g l i q"),
   (0xa7b, "k t j ch b b o o u u a a i i u u"),
   (0xa7c, "o o w w c s z d d s s"),
   (0xa7d, "g g ? th ? w s s s s"),
   (0xa7f, "? ? c f q h h i h oe m f p m i m"),
   (0xa80, "a i  u e o  k kh g gh m c ch j jh"),
   (0xa81, "t th d dh t th d dh n p ph b bh m r l"),
   (0xa82, "r s h a i u e o ? ? ? ? "),
   (0xa83, "1/4 1/2 3/4 1/16 1/8 3/16"),
   (0xa84, "k kh g ng c ch j ny t th d n p ph b m"),
   (0xa85, "ts tsh dz w zh z ' y r l sh s h ' i u"),
   (0xa86, "e o q x f gg e t th d n w y s n h"),
   (0xa87, "? r r m"),
   (0xa88, "m h a a i i u u r r l l e e ai o"),
   (0xa89, "o au k kh g gh ng c ch j jh ny t th d dh"),
   (0xa8a, "n t th d dh n p ph b bh m y r l v sh"),
   (0xa8b, "sh s h l ? a i i u u r r l l e e"),
   (0xa8c, "ai o o au  m"),
   (0xa8d, "0 1 2 3 4 5 6 7 8 9"),
   (0xa8e, "0 1 2 3 4 5 6 7 8 9 a u k n p r"),
   (0xa8f, "v ' m m m m m m ? ? ? ? ? ? ay ay"),
   (0xa90, "0 1 2 3 4 5 6 7 8 9 k kh g ng s sh"),
   (0xa91, "z ny t ht n p ph m d b r y l w th h"),
   (0xa92, "v c a oe i o ue ae u e o   "),
   (0xa93, "k g ng t d n p b m c j ny s r l y"),
   (0xa94, "w h mb ngg nd nyj a i u e ai o au eu ea ng"),
   (0xa95, "n r h "),
   (0xa96, "dm db ds dj rg rgg rd rdd rm rb rbb rbN rs rj rk mg"),
   (0xa97, "md ms bst bk bh ssb Nr Nh jjh ttt ph hs QQ"),
   (0xa98, "m ng r h a i i i u re le le e ai o k"),
   (0xa99, "k kh g gh ng c ch j jny jh ny t th d dh n"),
   (0xa9a, "t th d dh n p ph b bh m y r r l w sh"),
   (0xa9b, "sh s h  a o i i u u e ai e re y r"),
   (0xa9c, ""),
   (0xa9d, "0 1 2 3 4 5 6 7 8 9"),
   (0xa9e, "gh ch jh n bh   ny f g gh j jh d dh n"),
   (0xa9f, "0 1 2 3 4 5 6 7 8 9 l d dh b bh"),
   (0xaa0, "a i u e ai o k kh g gh ng ng ch chh j jh"),
   (0xaa1, "ny ny nj t th d dh n n d p p ph b bh m"),
   (0xaa2, "m b y r l v sh s h a i i e u e o"),
   (0xaa3, "ai au ue y r l w"),
   (0xaa4, "k g ng ng ch t n p y r l sh m h"),
   (0xaa5, "0 1 2 3 4 5 6 7 8 9"),
   (0xaa6, "g c ch j jh ny t th d dh n s h h f "),
   (0xaa7, " x z r oy qn hm ? ? ? r    sh sh"),
   (0xaa8, "k k kh kh khh khh g g ng ng c c ch ch s s"),
   (0xaa9, "ny ny d d t t th th n n b b p p ph ph"),
   (0xaaa, "f f m m y y r r l l v v h h ' '"),
   (0xaab, "a a i ue u e o o ia uea ua aue ay an am "),
   (0xaac, "  "),
   (0xaad, "? ? ? ? ? ? ? ? ? ? ? kon nueng "),
   (0xaae, "e o ch n t th d dh n sh sh i u a au au"),
   (0xaaf, "h ? ? ? ? h "),
   (0xab0, "? tthu tthi ttha tthe tthi ttho ? ? ddhu ddhi ddha ddhe ddhi ddho"),
   (0xab1, "? dzu dzi dza dze dzi dzo"),
   (0xab2, "cchhe cchhu cchhi cchha cchhe cchhi cchho ? bbe bbu bbi bba bbe bbi bbo"),
   (0xab3, "a a e e e f g l l l m n ng o o o"),
   (0xab4, "oe oe oe o o r r r r r r r r sh u u"),
   (0xab5, "ui ui u ch ch ch x x x x y ? h l l u"),
   (0xab6, "ye e oe uo a o dz ts r w"),
   (0xab7, "a e i o u v ga ka ge gi go gu gv ha he hi"),
   (0xab8, "ho hu hv la le li lo lu lv ma me mi mo mu na hna"),
   (0xab9, "nah ne ni no nu nv qua que qui quo quu quv sa s se si"),
   (0xaba, "so su sv da ta de te di ti do du dv dla tla tle tli"),
   (0xabb, "tlo tlu tlv tsa tse tsi tso tsu tsv wa we wi wo wu wv ya"),
   (0xabc, "k s l m p n c t kh ng th w y h u i"),
   (0xabd, "ph a g jh r b j d gh dh bh k l m p n"),
   (0xabe, "t ng i o i a e ou u ei ng   "),
   (0xabf, "0 1 2 3 4 5 6 7 8 9"),
   (0xd7b, "o-yeo o-o-i yo-a yo-ae yo-eo u-yeo u-i-i yu-ae yu-o eu-a eu-eo eu-e eu-o i-ya-o " ++
     "i-yae i-yeo"),
   (0xd7c, "i-ye i-o-i i-yo i-yu i-i U-a U-e ? ? ? ? nr nc dd ddb db"),
   (0xd7d, "ds dsg dj dc dt lgg lgh lgk lmh lbd lbp lN lQh l mn mnn"),
   (0xd7e, "mm mbs mj bd blp bm bb bsd bj bc sm sbN ssg ssd sZ sj"),
   (0xd7f, "sc st sh Zb ZbN Nm Nh jb jbb jj ps pt")]

end Stencil.Text.Spelling
