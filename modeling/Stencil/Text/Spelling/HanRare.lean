/-!
Readings of the rare Han characters from U+3400 to U+4DBF, in rows of sixteen.
-/
namespace Stencil.Text.Spelling

/-- Rows of readings under the code point of their first character divided by sixteen. -/
def hanRare : List (Nat × String) :=
  [(0x340, "qiu tian hei ? kua wu yin ? ? ? ? ? yi"),
   (0x341, "? ? ? ? ? ? xie ? ? ? ? ? chou"),
   (0x342, "? nuo ? ? dan ? ? dai xu xing ? xiong liu lin xiang yong"),
   (0x343, "xin zhen dai wu pan ru ? ma qian yi yin nei cheng feng"),
   (0x344, "? zhuo fang ao wu zuo ? zhou dong su yi qiong kuang lei nao zhu"),
   (0x345, "shu ? gim ? xu ? ? shen jie die nuo su yi long ying beng"),
   (0x346, "? ? ? lan miao yi li ji yu luo chai ? ? ? hun xu"),
   (0x347, "hui rao ? zhou ? han xi tai yao hui jun ma lue tang yao zhao"),
   (0x348, "zhai yu zhuo er ran qi chi wu han tang se si qiong lei sa"),
   (0x349, "? kui pu ta shu yang ou tai ? mian yin diao yu mie jun niao"),
   (0x34a, "xie you ? ? che feng lei li ? luo ? ji"),
   (0x34b, "quan ? cai liang gu mao ? gua sui ? ? mao man quan shi li"),
   (0x34c, "? wang kou du zhen ting ? ? bing huo dong gong cheng ? qin jiong"),
   (0x34d, "lu xing ? nan xie ? bi jie su ? gong ? you xing qia pi"),
   (0x34e, "dian fu luo qia qia tang bai gan ci xuan lang ? ? she diao li"),
   (0x34f, "hua tou pian di ruan e qie yi zhuo rui jian ? chi chong xi"),
   (0x350, "lue deng lin jue su xiao zan ? ? zhu zhan jian zou chua xie li"),
   (0x351, "? chi xi jian ? ji ? fei chu beng jie ? ba liang kuai"),
   (0x352, "xia bie jue lei xin bai yang lu bei e lu ? ? che nuo xuan"),
   (0x353, "heng yu ? gui yi xuan gong lou ti le shi ? sun yao xian zou"),
   (0x354, "? que yin xi zhi jia hu la yi ke fu qin ai ? ke chu"),
   (0x355, "xie chu wei cin teng huan su you ? jun zhao xu shi si shua kui"),
   (0x356, "shuang he gai yan qiu shen hua xi fan pang dan fang gong ao fu ne"),
   (0x357, "xue you hua ? chen guo n hua li fa xiao pou ? si"),
   (0x358, "le lin yi hou ? xu qu er ? ? xun ? ? ? ? nie"),
   (0x359, "wei xie ti hong tun nie nie yin zhen ? ? ? ? ? wai shou"),
   (0x35a, "nuo ye qi tou han jun dong hun lu ju huo ling ? tian lun"),
   (0x35b, "? ? ? ? ? ge yan shi xue pen chun niu duo ze e xie"),
   (0x35c, "you e sheng wen ku hu ge xia man lue ji hou zhi ? gaa wai"),
   (0x35d, "? bai ai zhui qian gou dan bei bo chu li xiao xiu"),
   (0x35e, "? ? hong ti cu kuo lao zhi xie xi ? qie zha xi"),
   (0x35f, "cong ji huo ta yan xu po sai ? ? ? guo ye xiang xue he"),
   (0x360, "zuo yi ci ? leng xian tai rong yi zhi xi xian ju ji han"),
   (0x361, "pao li ? lan sai han yan qu ? yan han kan chi nie huo"),
   (0x362, "bi xia weng xuan wan you qin xu nie bi hao jing ao ao"),
   (0x363, "zhen tan ju ? zuo bu jie ai zang ci fa ? ? ? ? nie"),
   (0x364, "liu mei dui bang bi bao ? chu xia tian chang ? ? duo wei fu"),
   (0x365, "duo yu ye kui wei kuai ? wei yao long xing bu chi xie nie lang"),
   (0x366, "yi zong man zhang xia gun xie ? ji liao yi ji yin ? da yi"),
   (0x367, "xie hao yong kan chan tai tang zhi bao meng kui chan lei ? xi"),
   (0x368, "xi qiao nang yun ? long fu zong ? gu kai diao hua kui ? gao"),
   (0x369, "tao ling shan lai nie fu gao qie ban jia kong xi yu zhui shen chuo"),
   (0x36a, "xiao ji nu xiao yi yu yi yan shen ran hao sa jun you ? xin"),
   (0x36b, "pei qiu chan ? bu dong si er ? mao yun ji ? qiao xiong pao"),
   (0x36c, "chu peng nuo jie yi er duo ? ? ? duo ? ? qie lu qiu"),
   (0x36d, "sou can dou xi feng yi suo qie po xin tong xin you bei long"),
   (0x36e, "? ? ? yun li ta lan man qiang zhou yan xi lu xi sao fan"),
   (0x36f, "? wei fa yi nao cheng tan ji shu pian an kua cha ? xian zhi"),
   (0x370, "? ? feng lian xun xu mi hui mu yong zhan yi nou tang xi yun"),
   (0x371, "shu fu yi da ? lian cao can ju lu su nen ao an qian"),
   (0x372, "cui cong ? ran nian mai xin yue nai ao shen ma ? ? lan xi"),
   (0x373, "yue zhi weng huai meng niao wan mi nie qu zan lian zhi zi hai xu"),
   (0x374, "hao xuan zhi mian chun gou ? chun luan zhu shou liao jiu xie ding jie"),
   (0x375, "rong mang ? ke yao ning yi lang yong yin yan su ? lin ya mao"),
   (0x376, "ming zui yu yi gou mi jun wen ? kang dian long ? xing cui qiao"),
   (0x377, "mian meng qin ? wan de ai ? bian nou lian jin yu chui zuo bo"),
   (0x378, "hui yao tui ji an luo ji wei bo za xu nian yun ? ba zhe"),
   (0x379, "ju wei xie qi yi xie ci qiu du niao qi ji tui ? song dian"),
   (0x37a, "lao zhan zi ? yin cen ji hui zi lan nao ju qin dai ? jie"),
   (0x37b, "xu cong yong dou chi ? min huang sui ke zu hao cheng xue ni chi"),
   (0x37c, "lian an mu si xiang yang hua cuo qiu lao fu dui mang lang tuo han"),
   (0x37d, "mang bo qun qi han ? long bin tiao ze qi zan mi pei zhan xiang"),
   (0x37e, "gang ? qi ? lu cen yun e duan min wei quan sou min tu"),
   (0x37f, "ming yao jue li kuai gang yuan da ? lao lou qian ao biao yong mang"),
   (0x380, "dao ? ao ? xi fu dan jiu run tong qu e qi ji ji hua"),
   (0x381, "jiao zui biao meng bai wei yi ao yu hao dui wo ni cuan ? li"),
   (0x382, "lu niao huai li ? lu feng mi yu ? ju ? ? zhan peng yi"),
   (0x383, "? ji bi ? ren huang fan ge ku jie sha ? si tong yuan zi"),
   (0x384, "bi kua li huang xun nuo ? zhe wen xian qia ye mao ? shan shu"),
   (0x385, "? qiao zhun kun wu ying chuang ti lian bi gou mang xie feng lou zao"),
   (0x386, "zheng chu man long ? yin pin zheng jian luan nie yi ? ji ji zhai"),
   (0x387, "yu jiu huan zhi la ling zhi ben zha ju dan liao yi zhao xian chi"),
   (0x388, "ci chi yan lang dou long chan ? tui cha ai chi ? ying zhe tou"),
   (0x389, "? tui cha yao zong ? pan qiao lian qin lu yan kang su yi chan"),
   (0x38a, "jiong jiang ? jing ? dong ? juan han di ? ? hong ? chi diao"),
   (0x38b, "bi ? xun lu ? xie bi ? bi ? xian rui bie er juan"),
   (0x38c, "zhen bei e yu qu zan mi yi si ? ? ? shan tai mu jing"),
   (0x38d, "bian rong ceng can ding ? ? ? ? di tong ta xing song duo xi"),
   (0x38e, "tao ? ti shan jian zhi wei yin ? ? huan zhong qi zong ? xie"),
   (0x38f, "xie ze wei ? ? ta zhan ning ? ? xin yi ren shu cha zhuo"),
   (0x390, "mong mian ji fang pei ai fan ao qin qia xiao fen gan qiao ge tong"),
   (0x391, "chan you gao ben fu chu zhu ? zhou ? hang nin jue chong cha kong"),
   (0x392, "lie li yu ? yu hai li hou gong ke yuan de hui jiao guang jiong"),
   (0x393, "zuo fu qie bei che ci mang han xi qiu huang ? ? chou san yan"),
   (0x394, "zhi de te men ling shou tui can die che peng yi ju ji lai tian"),
   (0x395, "yuan ? cai qi yu lian cong ? ? ? yu ji wei mi sui xie"),
   (0x396, "xu chi qiu hui ? yu qie shun shui duo lou ? pang tai zhou yin"),
   (0x397, "sao fei chen yuan yi hun se ye min fen he ? yin ce ni ao"),
   (0x398, "feng lian chang chan ma die hu lu ai yi hua zha hu e huo sun"),
   (0x399, "ni xian li xian yan long men jin ji ? bian yu huo miao chou mai"),
   (0x39a, "? le jie wei yi xuan xi can lan yin xie za luo ling qian huo"),
   (0x39b, "jian wo ? ? ge zhu die yong ji yang ru xi shuang yu yi qian"),
   (0x39c, "ji qu tian shou qian mu jin mao yin gai po xuan mao fang ya gang"),
   (0x39d, "song hui yu gua guai liu e zi zi bi wa lan lie ? ? kuai"),
   (0x39e, "? hai yin zhu chong xian xuan ? qiu pei gui er gong qiong hu lao"),
   (0x39f, "li chen san zhuo wo pou keng tun peng te ta zhuo biao gu hu"),
   (0x3a0, "bing zhi dong dui zhou nei lin po ji min wei che gou bang ru tan"),
   (0x3a1, "bu zong kui lao han ying zhi jie xing xie xun shan qian xie su hai"),
   (0x3a2, "mi hun pi ? hui na song ben chou jie huang lan ? hu dou huo"),
   (0x3a3, "gun yao ce gui jian jian dao jin ma hui mian can lue pi yang ju"),
   (0x3a4, "ju que ? qian shai ? jiu huo yun da xuan xiao fei ce ye"),
   (0x3a5, "den ? qin hui tun ? qiang xi ni sai meng tuan lan hao ci zhai"),
   (0x3a6, "ao luo mie ? fu ? xie bo hui qing xie ? hei bo qian po"),
   (0x3a7, "jiao jue kun song ju e nie qian die die ? qi zhi qi zhui ku"),
   (0x3a8, "yu qin ku he fu geng di xian gui he qun han tong bo shan bi"),
   (0x3a9, "lu ye ni chuai san diao lu tou lian ke san zhen chuai lian mao"),
   (0x3aa, "qian kai shao xiao bi zha yin xi shan su sa rui chuo lu ling cha"),
   (0x3ab, "? huan ? ? jia ban hu dou ? lou ju juan ke suo luo zhe"),
   (0x3ac, "ding duan zhu yan pang cha ? ? ? ? yi ? zing you hui yao"),
   (0x3ad, "yao zhi gong qi gen ? ? hou mi fu hu guang tan di ? yan"),
   (0x3ae, "? ? qu ? chang ming tao bao an ? ? xian ? ? ? mao"),
   (0x3af, "lang nan bei chen ? fei zhou ji jie shu sik kun die lu"),
   (0x3b0, "? ? yu tai chan man min huan wen nuan huan hou jing bo xian li"),
   (0x3b1, "jin ? mang piao hao yang ? xian su wei che xi jin ceng he fen"),
   (0x3b2, "shai ling ? dui qi pu yue bo ? hui die yan ju jiao nan lie"),
   (0x3b3, "yu ti tian wu hong xiao hao ? tiao zheng ? huang fu ? ? tun"),
   (0x3b4, "? reng jiao ? xin ? ? yuan jue hua ? bang mou ? gang wei"),
   (0x3b5, "? mei si bian lu qu ? ? ge zhe lu pai rong qiu lie gong"),
   (0x3b6, "xian xi xin ? niao ? ? ? xie lie fu cuo zhuo ba zuo zhe"),
   (0x3b7, "zui he ji ? jian ? ? ? tu xian yan tang ta di jue ang"),
   (0x3b8, "han xiao ju wei bang zhui nie tian nai ? ? you mian ? ? nai"),
   (0x3b9, "sheng cha yan gen chong ruan jia qin mao e li chi zang he jie nian"),
   (0x3ba, "? guan hou gai ? ben suo wu ji xi qiong he weng xian jie hun"),
   (0x3bb, "pi shen chou zhen ? zhan shuo ji song zhi ben ? ? ? lang bi"),
   (0x3bc, "xuan pei dai qi zhi pi chan bi su huo hen jiong chuan jiang nen gu"),
   (0x3bd, "fang ? ? ta cui xi de xian kuan zhe ta hu cui lu juan lu"),
   (0x3be, "qian pao zhen ? li cao qi ? ? ti ling qu lian lu shu gong"),
   (0x3bf, "zhe pao jin qing ? ? zong pu jin biao jian gun ? bin zao lie"),
   (0x3c0, "li luo shen mian jian di bei ? lian ? xian pin que long zui"),
   (0x3c1, "jue shan xue ? xie ? lan qi yi nuo li yue ? yi chi ji"),
   (0x3c2, "hang xie keng zi he xi qu hai xia hai gui chan xun xu shen kou"),
   (0x3c3, "xia sha yu ya pou zu you zi lian xian xia yi sha yan jiao xi"),
   (0x3c4, "chi shi kang yin hei yi xi se jin ye you que ye luan kun zheng"),
   (0x3c5, "? ? ? ? xie gwai cui xiu an xiu can chuan zha ? yi pi"),
   (0x3c6, "ku sheng lang tui xi ling qi wo lian du men lan wei duan kuai ai"),
   (0x3c7, "zai hui yi mo zi fen peng ? bi li lu luo hai zhen gai que"),
   (0x3c8, "zhen kong cheng jiu jue ji ling ? shao que rui chuo neng zhi lou pao"),
   (0x3c9, "? ? bao rong xian lei xiao fu qu ? sha zhi tan rong su ying"),
   (0x3ca, "mao nai bian ? shuai tang han sao rong ? deng pu jiao tan ? ran"),
   (0x3cb, "ning lie die die zhong ? lu dan xi gui ji ni yi nian yu wang"),
   (0x3cc, "guo ze yan cui xian jiao tou fu pei ? you qiu ya bu bian shi"),
   (0x3cd, "zha yi bian ? dui lan yi chai chong xuan xu yu xiu"),
   (0x3ce, "ta guo ? ? ? long xie che jian tan pi zan xuan xian niao"),
   (0x3cf, "? ? ? ? mi ji nou hu hua wang you ze bi mi qiang xie"),
   (0x3d0, "fan yi tan lei yong ? jin she yin ji ? su ? ? nai wang"),
   (0x3d1, "mian su yi shai ji ji luo you mao zha sui zhi bian li"),
   (0x3d2, "? ? ? ? ? qiao guan xi zhen yong nie jun xie yao xie zhi"),
   (0x3d3, "neng ? si long chen mi que dan shan ? ? ? su xie bo ding"),
   (0x3d4, "zu ? shu she han tan gao ? ? ? na mi xun men jian cui"),
   (0x3d5, "jue he fei shi che shen nu ping man ? ? ? ? yi chou"),
   (0x3d6, "ku bao lei ke sha mi sui ge pi yi xian ni ying zhu chun feng"),
   (0x3d7, "xu piao wu liao cang zou zuo bian yao huan pai xiu ? lei qing xiao"),
   (0x3d8, "jiao guo ? ? yan xue zhu heng ying xi ? ? lian xian huan yin"),
   (0x3d9, "? lian shan cang bei jian shu fan dian ? ba yu ? ? nang lei"),
   (0x3da, "yi dai ? chan chao gan jin nen ? ? ? liao mo you ? liu"),
   (0x3db, "han ? yong jin chi ren nong ? ? hong tian ? ai gua biao bo"),
   (0x3dc, "qiong ? shu chui hui chao fu hui e wei fen tan ? lun he yong"),
   (0x3dd, "hui ? yu zong yan qiu zhao jiong tai ? ? ? ? ? ? tui"),
   (0x3de, "lin jiong zha xing hu ? xu ? ? ? cui qing mo ? zao beng"),
   (0x3df, "chi ? ? yan ge mo bei juan die zhao ? wu yan ? jue xian"),
   (0x3e0, "tai han ? dian ji jie kao zuan ? xie lai fan huo xi nie mi"),
   (0x3e1, "ran cuan yin mi ? jue qu tong wan zhe li shao kong xian zhe zhi"),
   (0x3e2, "tiao shu bei ye pian chan hu ken jiu an chun qian bei ba fen ke"),
   (0x3e3, "tuo tuo zuo ling ? gui yan shi hou lie sha si ? bei ren du"),
   (0x3e4, "bo liang qian fei ji zong hui he li yuan yue xiu chan di lei jin"),
   (0x3e5, "chong si pu yao jiang huan huan tao ru weng ying rao yin shi yin jue"),
   (0x3e6, "tun xuan jia zhong qie zhu diao ? you ? ? yi shi yi mo"),
   (0x3e7, "? que xiao wu geng ying ting shi ni geng ta wo ju chan piao zhuo"),
   (0x3e8, "hu nao yan gou yu hou ? si chi hu yang weng xian pin rong lou"),
   (0x3e9, "lao shan xiao ze hai fan han chan zhan ? ta zhu nong han yu zhuo"),
   (0x3ea, "you li huo xi xian chan lian ? si jiu pu qiu gong zi yu"),
   (0x3eb, "? reng niu mei ba jiu ? xu ping bian mao ? ? ? ? yi"),
   (0x3ec, "yu ? ping qu bao hui ? ? ? bu mang la tu wu li ling"),
   (0x3ed, "? ji jun zou duo jue dai bei ? ? ? ? ? la bin sui"),
   (0x3ee, "tu xue ? ? ? ? ? duo ? ? sui bi tu se can tu"),
   (0x3ef, "mian jin lu ? ? zhan bi ji zen xuan li ? ? sui yong shu"),
   (0x3f0, "? ? e ? ? ? ying qiong luo zhen tun gu yu lei bo nei"),
   (0x3f1, "pian lian tang lian wen dang li ting wa zhou gang xing ang fan peng bo"),
   (0x3f2, "tuo shu yi bo qie tou gong tong han cheng jie huan xing dian chai dong"),
   (0x3f3, "pi ruan lie sheng ou di yu chuan rong kang tang cong piao chuang lu tong"),
   (0x3f4, "zheng li sa pan si ? dang hu yi xian xie luo liu ? tan gan"),
   (0x3f5, "? tan ? ? ? you nan ? gang jun chi gou wan li liu lie"),
   (0x3f6, "xia bei an yu ju rou xun zi cuo can zeng yong fu ruan ? xi"),
   (0x3f7, "shu jiao jiao xu zhang ? ? shui chen fan ji zhi ? gu wu"),
   (0x3f8, "qie shu hai tuo du zi ran mu fu ling ji xiu xuan nai ya jie"),
   (0x3f9, "li da ru yuan lu shen li liang geng xin xie qin qie che you bu"),
   (0x3fa, "kuang que ai qin qiang chu pei kuo yi guai sheng pian ? zhou huang hui"),
   (0x3fb, "hu bei ? ? zha ji gu xi gao chai ma zhu tui zhui xian lang"),
   (0x3fc, "? ? ? zhi ai xian guo xi ? tui can sao xian jie fen qun"),
   (0x3fd, "? yao dao jia lei yan lu tui ying pi luo li bie ? mao bai"),
   (0x3fe, "huang ? yao he chun he ning chou li tang huan bi ba che yang da"),
   (0x3ff, "ao xue ? zi da ran bang cuo wan ta bao gan yan xi zhu ya"),
   (0x400, "fan you an tui meng she jin gu ji qiao jiao yan xi kan mian xuan"),
   (0x401, "shan wo qian huan ren zhen tian jue xie qi ang mei gu ? tao fan"),
   (0x402, "ju chan shun bi mao shuo gu hong hua luo hang jia quan gai huang bu"),
   (0x403, "gu feng mu ai ying shun liang jie chi jie chou ping chen yan du di"),
   (0x404, "? liang xian biao xing meng ye mi qi qi wo xie yu qia cheng yao"),
   (0x405, "ying yang ji zong xuan min lou kai yao yan sun gui huang ying sheng cha"),
   (0x406, "lian ? xuan chuan che ni qu miao huo yu zhan hu ceng biao qian xi"),
   (0x407, "jiang kou mai mang zhan bian ji jue nang bi shi shuo mo lie mie mo"),
   (0x408, "xi chan qu jiao huo xian xu niu tong hou yu ? chong bo zuan diao"),
   (0x409, "zhuo ji qia ? xing hui shi ku ? dui yao yu bang jie zhe jia"),
   (0x40a, "shi di dong ci fu min zhen zhen ? yan qiao hang gong qiao lue guai"),
   (0x40b, "la rui fa cuo yan gong jie guai guo suo wo zheng nie diao lai ta"),
   (0x40c, "cui ya gun ? ? di ? mian jie min ju yu zhen zhao zha xing"),
   (0x40d, "? ban he gou hong lao wu bo keng lu cu lian yi qiao shu"),
   (0x40e, "xuan jin qin hui su chuang dun long ? nao tan dan wei gan da li"),
   (0x40f, "ca xian pan la zhu niao huai ying xian lan mo ba ? gui bi fu"),
   (0x410, "huo yi liu yang yin juan huo cheng dou e ? yan zhui zha qi yu"),
   (0x411, "quan huo nie huang ju she ? ? peng ming cao lou li chuang ? cui"),
   (0x412, "shan dan qi ? lai ling liao reng yu yi diao qi yi nian fu jian"),
   (0x413, "ya fang rui xian ? ? bi shi po nian zhi tao tian tian ru yi"),
   (0x414, "lie an he qiong li gui zi su yuan ya cha wan juan ting you hui"),
   (0x415, "jian rui mang ju zi ju an sui lai hun quan chang duo kong ne can"),
   (0x416, "ti xu jiu huang qi jie mao yan ? zhi tui ? ai pang cang tang"),
   (0x417, "en hun qi chu suo zhuo nou tu shen lou biao li man xin cen huang"),
   (0x418, "mei gao lian dao zhan zi ? ? zhi ba cui qiu ? long xian fei"),
   (0x419, "guo cheng jiu e chong yue hong yao ya yao tong zha you xue yao ke"),
   (0x41a, "huan lang yue chen ? ? shen ? ning ming hong chuang yun xuan jin zhuo"),
   (0x41b, "yu tan kang qiong ? cheng jiu xue zheng chong pan qiao ? qu lan yi"),
   (0x41c, "rong si qian si ? fa ? meng hua ? ? hai qiao chu que dui"),
   (0x41d, "li ba jie xu luo ? yun zhong hu yin pu zhi qian ? gan jian"),
   (0x41e, "zhu zhu ku nie rui ze ang zhi gong yi chi ji zhu lao ren rong"),
   (0x41f, "zheng na ce ? ? yi jue bie cheng jun dou wei yi zhe yan"),
   (0x420, "san lun ping zhao han yu dai zhao fei sha ling ta qu mang ye bao"),
   (0x421, "gui gua nan ge ? shi ke suo ci zhou tai kuai qin xu du ce"),
   (0x422, "huan cong sai zheng qian jin zong wei ? ? xi na pu sou ju zhen"),
   (0x423, "shao tao ban ta qian weng rong luo hu sou zhong pu mie jin shao mi"),
   (0x424, "shu ling lei jiang leng zhi diao ? san gu fan mei sui jian tang xie"),
   (0x425, "ku wu fan luo can ceng ling yi cong yun meng yu zhi yi dan huo"),
   (0x426, "wei tan se xie sou song qian liu yi ? lei li fei lie lin xian"),
   (0x427, "xiao ou mi xian rang zhuan shuang yan bian ling hong qi liao ban bi hu"),
   (0x428, "hu ? ce pei qiong ming jiu bu mei san wei ? ? li quan"),
   (0x429, "hun xiang ? shi ying ? nan huang jiu yan ? sa tuan xie zhe men"),
   (0x42a, "xi man ? huang tan xiao ye bi luo fan li cui chua dao di kuang"),
   (0x42b, "chu xian chan mi qian qiu zhen ? ? ? hu gan chi guai mu bo"),
   (0x42c, "hua geng yao mao wang ? ? ? ru xue zheng min jiang ? zhan zuo"),
   (0x42d, "yue lie ? zhou bi ren yu ? chuo er yi mi qing ? wang ji"),
   (0x42e, "bu ? bie fan yue li fan qu fu er e zheng tian yu jin qi"),
   (0x42f, "ju lai che bei niu yi xu mou xun fu ? nin ting beng zha wei"),
   (0x430, "ke yao ou xiao geng tang gui hui ta ? yao da qi jin lue mi"),
   (0x431, "mi jian lu fan ou mi jie fu bie huang su yao nie jin lian bo"),
   (0x432, "jian ti ling zuan shi yin dao chou ca mie yan lan chong jiao shuang quan"),
   (0x433, "nie luo ? shi luo zhu ? chou juan jiong er yi rui cai ren fu"),
   (0x434, "lan sui yu you dian ling zhu ta ping zhai jiao chui bu kou cun"),
   (0x435, "han han mou hu gong di fu xuan mi mei lang gu zhao ta yu zong"),
   (0x436, "li lu wu lei ji li li ? po yang wa tuo peng ? zhao gui"),
   (0x437, "? xu nai que wei zheng dong wei bo ? huan xuan zan li yan huang"),
   (0x438, "xue hu bao ran xiao po liao zhou yi xu luo kao chu ? na han"),
   (0x439, "chao lu zhan ta fu hong zeng qiao su pin guan ? hun chu ? er"),
   (0x43a, "er ruan qi si ju ? yan bang ye zi ne chuang ba cao ti han"),
   (0x43b, "zuo ba zhe wa geng bi er zhu wu wen zhi zhou lu wen gun qiu"),
   (0x43c, "la zai sou mian di qi cao piao lian shi long su qi yuan feng xu"),
   (0x43d, "jue di pian guan niu ren zhen gai pi tan chao chun he zhuan mo bie"),
   (0x43e, "qi shi bi jue si ? gua na hui xi er xiu mou ? xi zhi"),
   (0x43f, "run ju ti zhe shao meng bi han yu xian pang neng can bu ? qi"),
   (0x440, "ji zhuo lu jun xian xi cai wen zhi zi kun cong tian chu di chun"),
   (0x441, "qiu zhe zha rou bin ji xi zhu jue ge ji da chen suo ruo xiang"),
   (0x442, "huang qi zhu sun chai weng ke kao gu gai fan cong cao zhi chan lei"),
   (0x443, "xiu zhai zhe yu gui gong zan dan huo sou tan gu xi man duo ao"),
   (0x444, "pi wu ai meng pi meng yang zhi bo ying wei rang lan yan chan quan"),
   (0x445, "zhen pu ? tai fei shu ? dang cuo tan tian chi ta jia shun huang"),
   (0x446, "liao ? ? chen jin e gou fu duo ? e beng tao di ? di"),
   (0x447, "bu wan zhao lun qi mu qian ? zong sou ? you zhou ta ? su"),
   (0x448, "bu xi jiang cao fu teng che fu fei wu xi yang ming pang mang seng"),
   (0x449, "meng cao tiao kai bai xiao xin qi ? ? shao huan niu xiao chen dan"),
   (0x44a, "feng yin ang ran ri man fan qu shi he bian dai mo deng"),
   (0x44b, "kuang ? cha duo you hao ? gua xue lei jin qi qu wang yi liao"),
   (0x44c, "? ? yan yi yin qi zhe xi yi ye wu zhi zhi han chuo fu"),
   (0x44d, "chun ping kuai chou ? tuo qiong cong gao kua qu qu zhi meng li zhou"),
   (0x44e, "ta zhi gu liang hu la dian ci ying ? ? qi zhuo cha mao du"),
   (0x44f, "yin chai rui hen ruan fu lai xing jian yi mei ? mang ji suo han"),
   (0x450, "? li zi zu yao ge li qi gong li bing suo ? ? su chou"),
   (0x451, "jian xie bei xu jing pu ling xiang zuo diao chun qing nan zhai lu yi"),
   (0x452, "shao yu hua li pa ? ? li ? ? shuang ? yi ning si ku"),
   (0x453, "fu yi deng ran ce ? ti qin biao sui wei dun se ai qi zun"),
   (0x454, "kuan fei ? yin ? sao dou hui xie ze tan tang zhi yi fu e"),
   (0x455, "? jun jia cha xian man ? bi ling jie kui jia ? cheng lang xing"),
   (0x456, "fei lu zha he ji ni ying xiao teng lao ze kui ? qian ju piao"),
   (0x457, "fan tou lin mi zhuo xie hu mi jie za cong li ran zhu yin han"),
   (0x458, "? yi luan yue ran ling niang yu nue ? yi nue yi qian xia chu"),
   (0x459, "yin mi xi na kan zu xia yan tu ti wu suo yin chong zhou mang"),
   (0x45a, "yuan nu miao zao wan li qu na shi bi zi bang ? juan xiang kui"),
   (0x45b, "pai kuang xun zha yao kun hui xi e yang tiao you jue li ? li"),
   (0x45c, "cheng ji hu zhan fu chang guan ju meng chang tan mou xing li yan sou"),
   (0x45d, "shi yi bing cong hou wan di ji ge han bo xiu liu can can yi"),
   (0x45e, "xuan yan zao han yong zong ? kang yu qi zhe ma ? ? shuang jin"),
   (0x45f, "guan pu lin ? ting jiang la yi yong ci yan jie xun wei xian ning"),
   (0x460, "fu ge ? mo zhu nai xian wen li can mie jian ni chai wan xu"),
   (0x461, "nu mai zui kan ka hang ? ? yu wei zhu ? ? yi ? diao"),
   (0x462, "fu bi zhu zi shu xia ni ? jiao xun chong nou rong zhi sang"),
   (0x463, "shan yu ? jin ? lu han bie yi zui zhan yu wan ni guan jue"),
   (0x464, "beng can ? duo qi yao kui ruan hou xun xie ? kui ? xie bo"),
   (0x465, "ke cui xu bai ou zong ? ti chu chi niao guan feng xie deng wei"),
   (0x466, "jue kui zeng sa duo ling meng ? guo meng long ? ying ? guan cu"),
   (0x467, "li du ? biao qian xi ? de de xian lian ? shao xie shi wei"),
   (0x468, "? ? he you lu lai ying sheng juan qi jian yun ? qi ? lin"),
   (0x469, "ji mai chuang nian bin li ling gang cheng xuan xian hu bi zu dai dai"),
   (0x46a, "hun sai che ti ? nuo zhi liu fei jiao guan xi lin xuan reng tao"),
   (0x46b, "pi xin shan zhi wa tou tian yi xie pi yao yao nu hao nin yin"),
   (0x46c, "fan nan yao wan yuan xia zhou yuan shi mian xi ji tao fei xue ni"),
   (0x46d, "ci mi bian jian na yu e zhi ren xu lue hui xun nao han jia"),
   (0x46e, "dou hua tu ping cu xi song mi xin wu qiong zhang tao xing jiu ju"),
   (0x46f, "hun ti man yan ji shou lei wan che can jie you hui zha su ge"),
   (0x470, "nao xi ? dui chi wei zhe gun chao chi zao hui luan liao lao tuo"),
   (0x471, "hui wu ao she sui mai tan xin jing an ta chan wei tuan ji chen"),
   (0x472, "che yu xian xin ? ? ? nao ? yan qiu jiang song jun liao ju"),
   (0x473, "? man lie ? chu chi xiang qin mei shu chai chi gu yu yin"),
   (0x474, "liu lao shu zhe shuang hui ? ? e ? sha zong jue jun tuan lou"),
   (0x475, "wei chong zhu lie ? zhe zhao ? yi chu ni bo suan yi hao ya"),
   (0x476, "huan man man qu lao hao zhong min xian zhen shu zuo zhu gou xuan yi"),
   (0x477, "zhi xie jin can ? bu liang zhi ji wan guan ju jing ai fu gui"),
   (0x478, "hou yan ruan zhi biao yi suo die gui sheng xun chen she qing"),
   (0x479, "chun hong dong cheng wei ru shu cai ji za qi yan fu yu fu po"),
   (0x47a, "zhi tan zuo che qu you he hou gui e jiang yun tou cun tu fu"),
   (0x47b, "zuo hu ? bo zhao jue tang jue fu huang chun yong chui suo chi qian"),
   (0x47c, "cai xiao man can qi jian bi ji zhi zhu qu zhan ji bian ? li"),
   (0x47d, "li yue quan cheng fu cha tang shi hang qie qi bo na tou chu cu"),
   (0x47e, "yue zhi chen chu bi meng ba tian min lie feng cheng qiu tiao fu kuo"),
   (0x47f, "jian ? ? ? zhen qiu zuo chi kui lie bei du wu ? zhuo lu"),
   (0x480, "tang ? chu liang tian kun chang jue tu huan fei bi ? xia wo ji"),
   (0x481, "qu kui hu qiu sui cai ? qiu pi pang wa yao rong xun cu die"),
   (0x482, "chi cuo meng xuan duo bie zhe chu chan gui duan zou deng lai teng yue"),
   (0x483, "quan zhu ling chen zhen fu she tiao kua ai ? qiong shu hai shan wai"),
   (0x484, "zhan long jiu li ? chun rong yue jue kang fan qi hong fu lu hong"),
   (0x485, "tuo min tian juan qi zheng qing gong tian lang mao yin lu yuan ju pi"),
   (0x486, "? xie bian hun zhu rong sang wu cha keng shan peng man xiu ? cong"),
   (0x487, "keng zhuan chan si chong sui bei kai ? zhi wei min ling zuan nie ling"),
   (0x488, "qi yue ? yi xi chen ? rong chen nong you ji bo fang"),
   (0x489, "cu di jiao yu he xu yu qu ? bai geng jiong ? ya shu you"),
   (0x48a, "song ye cang yao shu yan shuai liao cong yu bo sui ? yan lei lin"),
   (0x48b, "ti du yue ji ? yun ? ? ju ju chu chen gong xiang xian an"),
   (0x48c, "gui yu lei ? tu chen xing qiu hang ? dang cai di yan zi"),
   (0x48d, "ying chan ? li suo ma ma ? tang pei lou qi cuo tu e can"),
   (0x48e, "jie yi ji dang jue bi lei yi chun chun po li zai tai po cu"),
   (0x48f, "ju xu fan ? xu er huo zhu ran fa juan han liang zhi mi yu"),
   (0x490, "? cen mei yin mian tu kui ? ? mi rong yu qiang mi ju pi"),
   (0x491, "jin wang ji meng jian xue bao gan chan li li qiu dun ying yun chen"),
   (0x492, "zhi ran ? lue kai gui yue hui pi cha duo chan sha shi she xing"),
   (0x493, "ying shi chi ye han fei ye yan zuan sou jin duo xian guan tao qie"),
   (0x494, "chan han meng yue cu qian jin shan mu yuan ? peng zheng zhi chun yu"),
   (0x495, "mou mai jiang qi su pie tian kuan cu sui ? jie jian ao jiao ye"),
   (0x496, "? ye long zao bao lian ? huan lu wei xian tie bo zheng zhu bei"),
   (0x497, "meng xie ou you ? xiao li zha mi ? ye ? ? po xie"),
   (0x498, "? ? shan zhuo ? shan jue ji jie ? niao ao chu wu guan xie"),
   (0x499, "ting xue dang zhan tan peng xie xu xian si kua zheng wu huo run chuai"),
   (0x49a, "du huan kuo fu chuai xian qin qie lan ? ya ying que hang chun zhi"),
   (0x49b, "? wei yan xiang yi ni zheng chuai ? shi ding zi jue xu yuan"),
   (0x49c, "? xu dao tian ge yi hong yi ? li ku xian sui xi xuan"),
   (0x49d, "? di lai zhou nian cheng jian bi zhuan ling hao bang tang chi ma xian"),
   (0x49e, "shuan yong qu ? pu hui wei yi ye ? che hao bin ? xian chan"),
   (0x49f, "hun ? han ci zhi qi kui rou ? ying xiong ? hu cui ? que"),
   (0x4a0, "di wu qiu ? yan liao bi ? bin ? yuan nue bao ying hong ci"),
   (0x4a1, "qia ti yu lei bao ? ji fu xian cen hu se beng qing yu wa"),
   (0x4a2, "ai han dan ge di huo pang ? zhui ling mai mai lian xiao xue zhen"),
   (0x4a3, "po fu nou xi dui dan yun xian yin shu dui beng hu fei fei za"),
   (0x4a4, "bei fei xian shi mian zhan zhan zhan hui fu wan mo qiao liao ? mie"),
   (0x4a5, "hu hong yu qi duo ang ? ba di xuan di bi zhou pao tie yi"),
   (0x4a6, "? jia zhi tu xie dan tiao xie chang yuan guan liang beng ? lu ji"),
   (0x4a7, "xuan shu du sou hu yun chan bang rong e weng ba feng yu zhe fen"),
   (0x4a8, "guan bu ge dun huang du ti bo qian lie long wei zhan lan sui na"),
   (0x4a9, "bi tuo zhu die bu ju po xia wei po da fan chan hu za"),
   (0x4aa, "? ? ? ? fan xie hong chi bao yin ? jing bo ruan chou ying"),
   (0x4ab, "yi gai kun yun zhen ya ju hou min bai ge bian zhuo hao zhen sheng"),
   (0x4ac, "gen bi duo chun chua san cheng ran chen mao pei wei pi fu zhuo qi"),
   (0x4ad, "lin yi men wu qi die chen xia he sang gua hou ao fu qiao hun"),
   (0x4ae, "pi yan si xi ming kui ge ? ao san shuang lou zhen hui chan"),
   (0x4af, "lin na han du jin mian fan e chao hong hong yu xue pao bi chao"),
   (0x4b0, "you yi xue sa xu li li yuan dui huo sha leng pou hu guo bu"),
   (0x4b1, "rui wei sou an yu xiang heng yang xiao yao ? bi ? heng tao liu"),
   (0x4b2, "? zhu ? xi zan yi dou yuan jiu ? bo ti ying ? yi nian"),
   (0x4b3, "shao ben gou ban mo gai en she ? zhi yang jian yuan shui ti wei"),
   (0x4b4, "xun zhi yi ren shi hu ne ye jian sui ying bao hu hu ye"),
   (0x4b5, "yang lian xi en dui zan zhu ying ying jin chuang dan ? kuai yi ye"),
   (0x4b6, "jian en ning ci qian xue bo mi shui mo liang qi qi shou fu bo"),
   (0x4b7, "beng bie yi wei huan fan qi mao fu ang ang fu qi qun tuo yi"),
   (0x4b8, "bo pian ba ? xuan ? ? yu chi lu yi li ? niao xi wu"),
   (0x4b9, "? lei pu zhuo zui zhuo chang an er yu leng fu zha hun chun sou"),
   (0x4ba, "bi bi zha ? he li ? han zai gu cheng lou mo mi mai ao"),
   (0x4bb, "zhe zhu huang fan deng tong ? du wo wei ji chi lin biao long jian"),
   (0x4bc, "nie luo shen ? gua nie yi ku wan wa qia bo kao ling gan gua"),
   (0x4bd, "hai kuang heng kui ze ting lang bi huan po yao wan ti sui kua dui"),
   (0x4be, "ao jian mo kui kuai an ma qing qiao ? kao hao duo xian nai suo"),
   (0x4bf, "jie pi pa song chang nie man song ci xian kuo ? di pou tiao zu"),
   (0x4c0, "wo fei cai peng sai ? rou qi cuo pan bo man zong ci kui ji"),
   (0x4c1, "lan ? meng mian pan lu zuan jiu liu yi wen li li zeng zhu hun"),
   (0x4c2, "shen chi xing wang dong huo pi hu mei che mei chao ju nou ? yi"),
   (0x4c3, "ru ling ya ? qi zi ? bang gong ze jie yu qin bei ba tuo"),
   (0x4c4, "yang qiao you zhi jie mo sheng shan qi shan mi gong yi geng geng tou"),
   (0x4c5, "fu xue ye ting tiao mou liu can li shu lu huo cuo pai liu ju"),
   (0x4c6, "zhan ju zheng zu xian zhi ? ? la ? ? la xu geng e mu"),
   (0x4c7, "zhong ti yuan zhan geng weng lang yu sou zha hai hua zhan chang lou chan"),
   (0x4c8, "zhi wei xuan zao min gui su ? ? si duo cen kuan teng nei lao"),
   (0x4c9, "lu yi xie yan qing pu chou xian guan jie lai meng ye chang li yin"),
   (0x4ca, "chun qiu teng yu ? ? dai du hong ? xi ? qi ? yuan ji"),
   (0x4cb, "yun fang gong hang zhen que ? ? jie pi gan xuan sheng shi qiao ci"),
   (0x4cc, "die bo diao wan ci zhi bai wu bao dan ba tong ? gong jiu gui"),
   (0x4cd, "ci you yuan lao ju fu nie e e xing kan yan tu pou beng ming"),
   (0x4ce, "shui yan qi yuan bie ? xuan hou huang yao juan kui e ji mo chong"),
   (0x4cf, "bao wu zhen xu ta chi xi cong ma kou yan can ? he deng ran"),
   (0x4d0, "tong yu xiang nao shun fen pu ling ao huan yi huan meng ying lei yan"),
   (0x4d1, "bao die ling shi jiao lie jing ju ti pi gang xiao wai chuai di huan"),
   (0x4d2, "yao li mi hu sheng jia yin wei ? piao lu ling yi cai shan hu"),
   (0x4d3, "shu tuo mo hua tie bing peng hun fu guo bu li chan pi cuo meng"),
   (0x4d4, "suo qiang zhi kuang bi ao meng xian ku tou tuan wei xian ? tuan lao"),
   (0x4d5, "chan ni ni li dong ju qian bo shai zha tao qian nong yi jing gan"),
   (0x4d6, "di jian mei da jian yu xie zai mang li gun xun ta zhe yang tuan"),
   (0x4d7, "shang xi qiao wei ying chua qu wa ? zhi ting gu shang ca fu tie"),
   (0x4d8, "ta ta zhuo han ping he zhui zhou bo liu nu xi pao di he ti"),
   (0x4d9, "wai ti qi ji chi ba jin ke li ju qu la gu qia qi xian"),
   (0x4da, "jian shi jian ai hua zha ze yao zhan ji cha yan jian ? yan"),
   (0x4db, "jiao tong nan yue ? chi ? jiao yao zuo")]

end Stencil.Text.Spelling
