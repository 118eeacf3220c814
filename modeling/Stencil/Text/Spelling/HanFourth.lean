/-!
Readings of the Han characters from U+8000 to U+8FFF, in rows of sixteen.
-/
namespace Stencil.Text.Spelling

/-- Rows of readings under the code point of their first character divided by sixteen. -/
def hanFourth : List (Nat × String) :=
  [(0x800, "Yao Lao Lao Kao Mao Zhe Qi Gou Gou Gou Die Die Er Shua Ruan Er"),
   (0x801, "Nai Zhuan Lei Ting Zi Geng Chao Hao Yun Pa Pi Chi Si Chu Jia Ju"),
   (0x802, "He Chu Lao Lun Ji Tang Ou Lou Nou Gou Pang Ze Lou Ji Lao Huo"),
   (0x803, "You Mo Huai Er Zhe Ding Ye Da Song Qin Yun Chi Dan Dan Hong Geng"),
   (0x804, "Zhi pan Nie Dan Zhen Che Ling Zheng You Wa Liao Long Zhi Ning Tiao Er"),
   (0x805, "Ya Die Gua xu Lian Hao Sheng Lie Pin Jing Ju Bi Di Guo Wen Xu"),
   (0x806, "Ping Cong Shikato ni Ting Yu Cong Kui Tsuraneru Kui Cong Lian Weng Kui Lian Lian"),
   (0x807, "Cong Ao Sheng Song Ting Kui Nie Zhi Dan Ning Qie Ji Ting Ting Long Yu"),
   (0x808, "Yu Zhao Si Su Yi Su Si Zhao Zhao Rou Yi Le Ji Qiu Ken Cao"),
   (0x809, "Ge Di Huan Huang Yi Ren Xiao Ru Zhou Yuan Du Gang Rong Gan Cha Wo"),
   (0x80a, "Chang Gu Zhi Han Fu Fei Fen Pei Pang Jian Fang Zhun You Na Hang Ken"),
   (0x80b, "Ran Gong Yu Wen Yao Jin Pi Qian Xi Xi Fei Ken Jing Tai Shen Zhong"),
   (0x80c, "Zhang Xie Shen Wei Zhou Die Dan Fei Ba Bo Qu Tian Bei Gua Tai Zi"),
   (0x80d, "Ku Zhi Ni Ping Zi Fu Pang Zhen Xian Zuo Pei Jia Sheng Zhi Bao Mu"),
   (0x80e, "Qu Hu Ke Yi Yin Xu Yang Long Dong Ka Lu Jing Nu Yan Pang Kua"),
   (0x80f, "Yi Guang Gai Ge Dong Zhi Xiao Xiong Xiong Er E Xing Pian Neng Zi Gui"),
   (0x810, "Cheng Tiao Zhi Cui Mei Xie Cui Xie Mo Mai Ji Obiyaakasu nin Kuai Sa Zang"),
   (0x811, "Qi Nao Mi Nong Luan Wan Bo Wen Guan Qiu Jiao Jing Rou Heng Cuo Lie"),
   (0x812, "Shan Ting Mei Chun Shen Xie De Zui Cu Xiu Xin Tuo Pao Cheng Nei Fu"),
   (0x813, "Dou Tuo Niao Noy Pi Gu Gua Li Lian Zhang Cui Jie Liang Zhou Pi Biao"),
   (0x814, "Lun Pian Guo Kui Chui Dan Tian Nei Jing Jie La Yi An Ren Shen Chuo"),
   (0x815, "Fu Fu Ju Fei Qiang Wan Dong Pi Guo Zong Ding Wu Mei Ruan Zhuan Zhi"),
   (0x816, "Cou Gua Ou Di An Xing Nao Yu Chuan Nan Yun Zhong Rou E Sai Tu"),
   (0x817, "Yao Jian Wei Jiao Yu Jia Duan Bi Chang Fu Xian Ni Mian Wa Teng Tui"),
   (0x818, "Bang Qian Lu Wa Sou Tang Su Zhui Ge Yi Bo Liao Ji Pi Xie Gao"),
   (0x819, "Lu Bin Ou Chang Lu Guo Pang Chuai Piao Jiang Fu Tang Mo Xi Zhuan Lu"),
   (0x81a, "Jiao Ying Lu Zhi Tara Chun Lian Tong Peng Ni Zha Liao Cui Gui Xiao Teng"),
   (0x81b, "Fan Zhi Jiao Shan Wu Cui Run Xiang Sui Fen Ying Tan Zhua Dan Kuai Nong"),
   (0x81c, "Tun Lian Bi Yong Jue Chu Yi Juan La Lian Sao Tun Gu Qi Cui Bin"),
   (0x81d, "Xun Ru Huo Zang Xian Biao Xing Kuan La Yan Lu Huo Zan Luo Qu Zang"),
   (0x81e, "Luan Ni Zan Chen Qian Wo Guang Zang Lin Guang Zi Jiao Nie Chou Ji Gao"),
   (0x81f, "Chou Mian Nie Zhi Zhi Ge Jian Die Zhi Xiu Tai Zhen Jiu Xian Yu Cha"),
   (0x820, "Yao Yu Chong Xi Xi Jiu Yu Yu Xing Ju Jiu Xin She She Yadoru Jiu"),
   (0x821, "Shi Tan Shu Shi Tian Dan Pu Pu Guan Hua Tan Chuan Shun Xia Wu Zhou"),
   (0x822, "Dao Gang Shan Yi fan Pa Tai Fan Ban Chuan Hang Fang Ban Que Hesaki Zhong"),
   (0x823, "Jian Cang Ling Zhu Ze Duo Bo Xian Ge Chuan Jia Lu Hong Pang Xi kua"),
   (0x824, "Fu Zao Feng Li Shao Yu Lang Ting yu Wei Bo Meng Nian Ju Huang Shou"),
   (0x825, "Zong Bian Mao Die dao Bang Cha Yi Sao Cang Cao Lou Dai Sori Yao Tong"),
   (0x826, "Yofune Dang Tan Lu Yi Jie Jian Huo Meng Qi Lu Lu Chan Shuang Gen Liang"),
   (0x827, "Jian Jian Se Yan Fu Ping Yan Yan Cao Cao Yi Le Ting Qiu Ai Nai"),
   (0x828, "Tiao Jiao Jie Peng Wan Yi Chai Mian Mie Gan Qian Yu Yu Shuo Qiong Tu"),
   (0x829, "Xia Qi Mang Zi Hui Sui Zhi Xiang Bi Fu Tun Wei Wu Zhi Qi Shan"),
   (0x82a, "Wen Qian Ren Fou Kou Jie Lu Xu Ji Qin Qi Yuan Fen Ba Rui Xin"),
   (0x82b, "Ji Hua Hua Fang Wu Jue Gou Zhi Yun Qin Ao Chu Mao Ya Fei Reng"),
   (0x82c, "Hang Cong Yin You Bian Yi Susa Wei Li Pi E Xian Chang Cang Meng Su"),
   (0x82d, "Yi Yuan Ran Ling Tai Tiao Di Miao Qiong Li Yong Ke Mu Pei Bao Gou"),
   (0x82e, "Min Yi Yi Ju Pi Ruo Ku Zhu Ni Bo Bing Shan Qiu Yao Xian Ben"),
   (0x82f, "Hong Ying Zha Dong Ju Die Nie Gan Hu Ping Mei Fu Sheng Gu Bi Wei"),
   (0x830, "Fu Zhuo Mao Fan Qie Mao Mao Ba Zi Mo Zi Di Chi Ji Jing Long"),
   (0x831, "Cong Niao Yuan Xue Ying Qiong Ge Ming Li Rong Yin Gen Qian Chai Chen Yu"),
   (0x832, "Xiu Zi Lie Wu Ji Kui Ce Chong Ci Gou Guang Mang Chi Jiao Jiao Fu"),
   (0x833, "Yu Zhu Zi Jiang Hui Yin Cha Fa Rong Ru Chong Mang Tong Zhong qian Zhu"),
   (0x834, "Xun Huan Kua Quan Gai Da Jing Xing Chuan Cao Jing Er An Shou Chi Ren"),
   (0x835, "Jian Ti Huang Ping Li Jin Lao Shu Zhuang Da Jia Rao Bi Ze Qiao Hui"),
   (0x836, "Qi Dang zi Rong Hun Ying Luo Ying Xun Jin Sun Yin Mai Hong Zhou Yao"),
   (0x837, "Du Wei Chu Dou Fu Ren Yin He Bi Bu Yun Di Tu Sui Sui Cheng"),
   (0x838, "Chen Wu Bie Xi Geng Li Fu Zhu Mo Li Zhuang Ji Duo Qiu Sha Suo"),
   (0x839, "Chen Feng Ju Mei Meng Xing Jing Che Xin Jun Yan Ting Diao Cuo Wan Han"),
   (0x83a, "You Cuo Jia Wang You Niu Shao Xian Lang Fu E Mo Wen Jie Nan Mu"),
   (0x83b, "Kan Lai Lian Shi Wo Usagi Lian Huo You Ying Ying Nuc Chun Mang Mang Ci"),
   (0x83c, "Wan Jing Di Qu Dong Jian Zou Gu La Lu Ju Wei Jun Nie Kun He"),
   (0x83d, "Pu Zi Gao Guo Fu Lun Chang Chou Song Chui Zhan Men Cai Ba Li Tu"),
   (0x83e, "Bo Han Bao Qin Juan Xi Qin Di Jie Pu Dang Jin Zhao Tai Geng Hua"),
   (0x83f, "Gu Ling Fei Jin An Wang Beng Zhou Yan Ju Jian Lin Tan Shu Tian Dao"),
   (0x840, "Hu Qi He Cui Tao Chun Bei Chang Huan Fei Lai Qi Meng Ping Wei Dan"),
   (0x841, "Sha Huan Yan Yi Tiao Qi Wan Ce Nai Kutabireru Tuo Jiu Tie Luo bi yi"),
   (0x842, "Meng bo Yaji ding Ying Ying Ying Xiao Sa Qiu Ke Xiang Wan Yu Yu Fu"),
   (0x843, "Lian Xuan Yuan Nan Ze Wo Chun Xiao Yu Pian Mao An E Luo Ying Huo"),
   (0x844, "Gua Jiang Mian Zuo Zuo Ju Bao Rou Xi Xie An Qu Jian Fu Lu Jing"),
   (0x845, "Pen Feng Hong Hong Hou Yan Tu Zhe Zi Xiang Shen Ge Jie Jing Mi Huang"),
   (0x846, "Shen Pu Gai Dong Zhou Qian Wei Bo Wei Pa Ji Hu Zang Jia Duan Yao"),
   (0x847, "Jun Cong Quan Wei Xian Kui Ting Hun Xi Shi Qi Lan Zong Yao Yuan Mei"),
   (0x848, "Yun Shu Di Zhuan Guan Sukumo Xue Chan Kai Kui hua Jiang Lou Wei Pai you"),
   (0x849, "Sou Yin Shi Chun Shi Yun Zhen Lang Nu Meng He Que Suan Yuan Li Ju"),
   (0x84a, "Xi Pang Chu Xu Tu Liu Wo Zhen Qian Zu Po Cuo Yuan Chu Yu Kuai"),
   (0x84b, "Pan Pu Pu Na Shuo Xi Fen Yun Zheng Jian Ji Ruo Cang En Mi Hao"),
   (0x84c, "Sun Zhen Ming Sou Xu Liu Xi Gu Lang Rong Weng Gai Cuo Shi Tang Luo"),
   (0x84d, "Ru Suo Xian Bei Yao Gui Bi Zong Gun Za Xiu Ce Hai Lan dan Ji"),
   (0x84e, "Li Can Lang Yu ling Ying Mo Diao Tiao Mao Tong Zhu Peng An Lian Cong"),
   (0x84f, "Xi Ping Qiu Jin Chun Jie Wei Tui Cao Yu Yi Ji Liao Bi Lu Xu"),
   (0x850, "Bu Zhang Lei Qiang Man Yan Ling Ji Biao Gun Han Di Su Lu She Shang"),
   (0x851, "Di Mie Hun Man Bo Di Cuo Zhe Shen Xuan Wei Hu Ao Mi Lou Cu"),
   (0x852, "Zhong Cai Po Jiang Mi Cong Niao Hui Jun Yin Jian Yan Shu Yin Kui Chen"),
   (0x853, "Hu Sha Kou Qian Ma Zang Sonoko Qiang Dou Lian Lin Kou Ai Bi Li Wei"),
   (0x854, "Ji Xun Sheng Fan Meng Ou Chan Dian Xun Jiao Rui Rui Lei Yu Qiao Chu"),
   (0x855, "Hua Jian Mai Yun Bao You Qu Lu Rao Hui E Teng Fei Jue Zui Fa"),
   (0x856, "Ru Fen Kui Shun Rui Ya Xu Fu Jue Dang Wu Tong Si Xiao Xi Long"),
   (0x857, "Yun Shao Qi Jian Yun Sun Ling Yu Xia Yong Ji Hong Si Nong Lei Xuan"),
   (0x858, "Yun Yu Xi Hao Bo Hao Ai Wei Hui Wei Ji Ci Xiang Luan Mie Yi"),
   (0x859, "Leng Jiang Can Shen Qiang Lian Ke Yuan Da Ti Tang Xie Bi Zhan Sun Lian"),
   (0x85a, "Fan Ding Jie Gu Xie Shu Jian Kao Hong Sa Xin Xun Yao Hie Sou Shu"),
   (0x85b, "Xun Dui Pin Wei Neng Chou Mai Ru Piao Tai Qi Zao Chen Zhen Er Ni"),
   (0x85c, "Ying Gao Cong Xiao Qi Fa Jian Xu Kui Jie Bian Diao Mi Lan Jin Cang"),
   (0x85d, "Miao Qiong Qie Xian liao Ou Xian Su Lu Yi Xu Xie Li Yi La Lei"),
   (0x85e, "Xiao Di Zhi Bei Teng Yao Mo Huan Piao Fan Sou Tan Tui Qiong Qiao Wei"),
   (0x85f, "Liu Hui ou Gao Yun bao Li Shu Chu Ai Lin Zao Xuan Chen Lai Huo"),
   (0x860, "Tuo Wu Rui Rui Qi Heng Lu Su Tui Mang Yun Pin Yu Xun Ji Jiong"),
   (0x861, "Xian Mo Hagi Su Jiong peng Nie Bo Rang Yi Xian Yu Ju Lian Lian Yin"),
   (0x862, "Qiang Ying Long Tong Wei Yue Ling Qu Yao Fan Mi Lan Kui Lan Ji Dang"),
   (0x863, "Katsura Lei Lei Hua Feng Zhi Wei Kui Zhan Huai Li Ji Mi Lei Huai Luo"),
   (0x864, "Ji Kui Lu Jian San teng Lei Quan Xiao Yi Luan Men Bie Hu Hu Lu"),
   (0x865, "Nue Lu Si Xiao Qian Chu Hu Xu Cuo Fu Xu Xu Lu Hu Yu Hao"),
   (0x866, "Jiao Ju Guo Bao Yan Zhan Zhan Kui Ban Xi Shu Chong Qiu Diao Ji Qiu"),
   (0x867, "Cheng Shi xia Di Zhe She Yu Gan Zi Hong Hui Meng Ge Sui Xia Chai"),
   (0x868, "Shi Yi Ma Xiang Fang E Pa Chi Qian Wen Wen Rui Bang Bi Yue Yue"),
   (0x869, "Jun Qi Ran Yin Qi Tian Yuan Jue Hui Qin Qi Zhong Ya Ci Mu Wang"),
   (0x86a, "Fen Fen Hang Gong Zao Fu Ran Jie Fu Chi Dou Piao Xian Ni Te Qiu"),
   (0x86b, "You Zha Ping Chi You He Han Ju Li Fu Ran Zha Gou Pi Bo Xian"),
   (0x86c, "Zhu Diao Bie Bing Gu Ran Qu She Tie Ling Gu Dan Gu Ying Li Cheng"),
   (0x86d, "Qu Mou Ge Ci Hui Hui Mang Fu Yang Wa Lie Zhu Yi Xian Kuo Jiao"),
   (0x86e, "Li Yi Ping Ji Ha She Yi Wang Mo Qiong Qie Gui Gong Zhi Man Ebi"),
   (0x86f, "Zhi Jia Rao Si Qi Xing Lie Qiu Shao Yong Jia Shui Che Bai E Han"),
   (0x870, "Shu Xuan Feng Shen Zhen Fu Xian Zhe Wu Fu Li Lang Bi Chu Yuan You"),
   (0x871, "Jie Dan Yan Ting Dian Shui Hui Gua Zhi Song Fei Ju Mi Qi Qi Yu"),
   (0x872, "Jun Zha Meng Qiang Si Xi Lun Li Die Tiao Tao Kun Gan Han Yu Bang"),
   (0x873, "Fei Pi Wei Dun Yi Yuan Su Quan Qian Rui Ni Qing Wei Liang Guo Wan"),
   (0x874, "Dong E Ban Di Wang Can Yang Ying Guo Chan ding La Ke Ji Xie Ting"),
   (0x875, "Mao Xu Mian Yu Jie Shi Xuan Huang Yan Bian Rou Wei Fu Yuan Mei Wei"),
   (0x876, "Fu Ruan Xie You You Mao Xia Ying Shi Chong Tang Zhu Zong Ti Fu Yuan"),
   (0x877, "Hui Meng La Du Hu Qiu Die Li Gua Yun Ju Nan Lou Qun Rong Ying"),
   (0x878, "Jiang Tun Lang Pang Si Xi Ci Xi Yuan Weng Lian Sou Ban Rong Rong Ji"),
   (0x879, "Wu Qiu Han Qin Yi Bi Hua Tang Yi Du Nai He Hu Xi Ma Ming"),
   (0x87a, "Yi Wen Ying Teng Yu Cang sao Ebi Man tiao Shang Zhe Cao Chi Di Ao"),
   (0x87b, "Lu Wei Zhi Tang Chen Piao Qu Pi Yu Jian Luo Lou Qin Zhong Yin Jiang"),
   (0x87c, "Shuai Wen Jiao Wan Zhi Zhe Ma Ma Guo Liu Mao Xi Cong Li Man Xiao"),
   (0x87d, "Kamakiri Zhang Mang Xiang Mo Zui Si Qiu Te Zhi Peng Peng Jiao Qu Bie Liao"),
   (0x87e, "Pan Gui Xi Ji Zhuan Huang Fei Lao Jue Jue Hui Yin Chan Jiao Shan Rao"),
   (0x87f, "Xiao Mou Chong Xun Si chu Cheng Dang Li Xie Shan Yi Jing Da Chan Qi"),
   (0x880, "Ci Xiang She Luo Qin Ying Chai Li Ze Xuan Lian Zhu Ze Xie Mang Xie"),
   (0x881, "Qi Rong Jian Meng Hao Ruan Huo Zhuo Jie Bin He Mie Fan Lei Jie La"),
   (0x882, "Mi Li Chun Li Qiu Nie Lu Du Xiao Zhu Long Li Long Feng Ye Beng"),
   (0x883, "Shang Gu Juan Ying shu Xi Can Qu Quan Du Can Man Jue Jie Zhu Zha"),
   (0x884, "Xie Huang Niu Pei Nu Xin Zhong Mo Er Ke Mie Xi Xing Yan Kan Yuan"),
   (0x885, "qu Ling Xuan Shu Xian Tong Long Jie Xian Ya Hu Wei Dao Chong Wei Dao"),
   (0x886, "Zhun Heng Qu Yi Yi Bu Gan Yu Biao Cha Yi Shan Chen Fu Gun Fen"),
   (0x887, "Shuai Jie Na Zhong Dan Ri Zhong Zhong Xie Qi Xie Ran Zhi Ren Qin Jin"),
   (0x888, "Jun Yuan Mei Chai Ao Niao Hui Ran Jia Tuo Ling Dai Bao Pao Yao Zuo"),
   (0x889, "Bi Shao Tan Ju He Shu Xiu Zhen Yi Pa Bo Di Wa Fu Gun Zhi"),
   (0x88a, "Zhi Ran Pan Yi Mao Tuo Na Kou Xian Chan Qu Bei Gun Xi Ne Bo"),
   (0x88b, "Horo Fu Yi Chi Ku Ren Jiang Jia Cun Mo Jie Er Luo Ru Zhu Gui"),
   (0x88c, "Yin Cai Lie Kamishimo Yuki Zhuang Dang xu Kun Ken Niao Shu Jia Kun Cheng Li"),
   (0x88d, "Juan Shen Pou Ge Yi Yu Zhen Liu Qiu Qun Ji Yi Bu Zhuang Shui Sha"),
   (0x88e, "Qun Li Lian Lian Ku Jian Fou Chan Bi Gun Tao Yuan Ling Chi Chang Chou"),
   (0x88f, "Duo Biao Liang Chang Pei Pei Fei Yuan Luo Guo Yan Du Ti Zhi Ju Qi"),
   (0x890, "Ji Zhi Gua Ken Che Ti Ti Fu Chong Xie Bian Die Kun Duan Xiu Xiu"),
   (0x891, "He Yuan Bao Bao Fu Yu Tuan Yan Hui Bei Chu Lu Ena Hitoe Yun Da"),
   (0x892, "Gou Da Huai Rong Yuan Ru Nai Jiong Suo Ban Tun Chi Sang Niao Ying Jie"),
   (0x893, "Qian Huai Ku Lian Bao Li Zhe Shi Lu Yi Die Xie Xian Wei Biao Cao"),
   (0x894, "Ji Jiang Sen Bao Xiang Chihaya Pu Jian Zhuan Jian Zui Ji Dan Za Fan Bo"),
   (0x895, "Xiang Xin Bie Rao Man Lan Ao Duo Gui Cao Sui Nong Chan Lian Bi Jin"),
   (0x896, "Dang Shu Tan Bi Lan Pu Ru Zhi dui Shu Wa Shi Bai Xie Bo Chen"),
   (0x897, "Lai Long Xi Xian Lan Zhe Dai Tasuki Zan Shi Jian Pan Yi Ran Ya Xi"),
   (0x898, "Xi Yao Feng Tan fu Biao Fu Ba He Ji Ji Jian Guan Bian Yan Gui"),
   (0x899, "Jue Pian Mao Mi Mi Mie Shi Si Zhan Luo Jue Mi Tiao Lian Yao Zhi"),
   (0x89a, "Jun Xi Shan Wei Xi Tian Yu Lan E Du Qin Pang Ji Ming Ying Gou"),
   (0x89b, "Qu Zhan Jin Guan Deng Jian Luo Qu Jian Wei Jue Qu Luo Lan Shen Di"),
   (0x89c, "Guan Jian Guan Yan Gui Mi Shi Zhan Lan Jue Ji Xi Di Tian Yu Gou"),
   (0x89d, "Jin Qu Jiao Jiu Jin Cu Jue Zhi Chao Ji Gu Dan Zui Di Shang Hua"),
   (0x89e, "Quan Ge Zhi Jie Gui Gong Chu Jie Hun Qiu Xing Su Ni Ji Lu Zhi"),
   (0x89f, "Zha Bi Xing Hu Shang Gong Zhi Xue Chu Xi Yi Lu Jue Xi Yan Xi"),
   (0x8a0, "Yan Yan Ding Fu Qiu Qiu Jiao Hong Ji Fan Xun Diao Hong Cha Tao Xu"),
   (0x8a1, "Jie Yi Ren Xun Yin Shan Qi Tuo Ji Xun Yin E Fen Ya Yao Song"),
   (0x8a2, "Shen Yin Xin Jue Xiao Ne Chen You Zhi Xiong Fang Xin Chao She Yan Sa"),
   (0x8a3, "Zhun Xu Yi Yi Su Chi He Shen He Xu Zhen Zhu Zheng Gou Zi Zi"),
   (0x8a4, "Zhan Gu Fu Quan Die Ling Di Yang Li Nao Pan Zhou Gan Yi Ju Ao"),
   (0x8a5, "Zha Tuo Yi Qu Zhao Ping Bi Xiong Qu Ba Da Zu Tao Zhu Ci Zhe"),
   (0x8a6, "Yong Xu Xun Yi Huang He Shi Cha Jiao Shi Hen Cha Gou Gui Quan Hui"),
   (0x8a7, "Jie Hua Gai Xiang Wei Shen Chou Tong Mi Zhan Ming E Hui Yan Xiong Gua"),
   (0x8a8, "Er Beng Tiao Chi Lei Zhu Kuang Kua Wu Yu Teng Ji Zhi Ren Su Lang"),
   (0x8a9, "E Kuang E Shi Ting Dan Bo Chan You Heng Qiao Qin Shua An Yu Xiao"),
   (0x8aa, "Cheng Jie Xian Wu Wu Gao Song Pu Hui Jing Shuo Zhen Shuo Du Yasashi Chang"),
   (0x8ab, "Shui Jie Ke Qu Cong Xiao Sui Wang Xuan Fei Chi Ta Yi Na Yin Diao"),
   (0x8ac, "Pi Chuo Chan Chen Zhun Ji Qi Tan Zhui Wei Ju Qing Jian Zheng Ze Zou"),
   (0x8ad, "Qian Zhuo Liang Jian Zhu Hao Lun Shen Biao Huai Pian Yu Die Xu Pian Shi"),
   (0x8ae, "Xuan Shi Hun Hua E Zhong Di Xie Fu Pu Ting Jian Qi Yu Zi Chuan"),
   (0x8af, "Xi Hui Yin An Xian Nan Chen Feng Zhu Yang Yan Heng Xuan Ge Nuo Qi"),
   (0x8b0, "Mou Ye Wei xing Teng Zou Shan Jian Bo Ku Huang Huo Ge Ying Mi Xiao"),
   (0x8b1, "Mi Xi Qiang Chen Nue Ti Su Bang Chi Qian Shi Jiang Yuan Xie Xue Tao"),
   (0x8b2, "Yao Yao lu Yu Biao Cong Qing Li Mo Mo Shang Zhe Miu Jian Ze Jie"),
   (0x8b3, "Lian Lou Can Ou Guan Xi Zhuo Ao Ao Jin Zhe Yi Hu Jiang Man Chao"),
   (0x8b4, "Han Hua Chan Xu Zeng Se Xi She Dui Zheng Nao Lan E Ying Jue Ji"),
   (0x8b5, "Zun Jiao Bo Hui Zhuan Mu Zen Zha Shi Qiao Tan Zen Pu Sheng Xuan Zao"),
   (0x8b6, "Tan Dang Sui Qian Ji Jiao Jing Lian Nou Yi Ai Zhan Pi Hui Hua Yi"),
   (0x8b7, "Yi Shan Rang Nou Qian Zhui Ta Hu Zhou Hao Ye Ying Jian Yu Jian Hui"),
   (0x8b8, "Du Zhe Xuan Zan Lei Shen Wei Chan Li Yi Bian Zhe Yan E Chou Wei"),
   (0x8b9, "Chou Yao Chan Rang Yin Lan Chen Huo Zhe Huan Zan Yi Dang Zhan Yan Du"),
   (0x8ba, "Yan Ji Ding Fu Ren Ji Jie Hong Tao Rang Shan Qi Tuo Xun Yi Xun"),
   (0x8bb, "Ji Ren Jiang Hui Ou Ju Ya Ne Xu E Lun Xiong Song Feng She Fang"),
   (0x8bc, "Jue Zheng Gu He Ping Zu Shi Xiong Zha Su Zhen Di Zou Ci Qu Zhao"),
   (0x8bd, "Bi Yi Yi Kuang Lei Shi Gua Shi Jie Hui Cheng Zhu Shen Hua Dan Gou"),
   (0x8be, "Quan Gui Xun Yi Zheng Gai Xiang Cha Hun Xu Zhou Jie Wu Yu Qiao Wu"),
   (0x8bf, "Gao You Hui Kuang Shuo Song Ai Qing Zhu Zou Nuo Du Zhuo Fei Ke Wei"),
   (0x8c0, "Yu Shui Shen Diao Chan Liang Zhun Sui Tan Shen Yi Mou Chen Die Huang Jian"),
   (0x8c1, "Xie Nue Ye Wei E Yu Xuan Chan Zi An Yan Di Mi Pian Xu Mo"),
   (0x8c2, "Dang Su Xie Yao Bang Shi Qian Mi Jin Man Zhe Jian Miu Tan Zen Qiao"),
   (0x8c3, "Lan Pu Jue Yan Qian Zhan Chen Gu Qian Hong Xia Jue Hong Han Hong Xi"),
   (0x8c4, "Xi Huo Liao Han Du Long Dou Jiang Qi Shi Li Deng Wan Bi Shu Xian"),
   (0x8c5, "Feng Zhi Zhi Yan Yan Shi Chu Hui Tun Yi Tun Yi Jian Ba Hou E"),
   (0x8c6, "Cu Xiang Huan Jian Ken Gai Qu Fu Xi Bin Hao Yu Zhu Jia Fen Xi"),
   (0x8c7, "Bo Wen Huan Bin Di Zong Fen Yi Zhi Bao Chai Han Pi Na Pi Gou"),
   (0x8c8, "Na You Diao Mo Si Xiu Huan Kun He He Mo Han Mao Li Ni Bi"),
   (0x8c9, "Yu Jia Tuan Mao Pi Xi E Ju Mo Chu Tan Huan Jue Bei Zhen Yuan"),
   (0x8ca, "Fu Cai Gong Te Yi Hang Wan Pin Huo Fan Tan Guan Ze Zhi Er Zhu"),
   (0x8cb, "Shi Bi Zi Er Gui Pian Bian Mai Dai Sheng Kuang Fei Tie Yi Chi Mao"),
   (0x8cc, "He Bi Lu Ren Hui Gai Pian Zi Jia Xu Zei Jiao Gai Zang Jian Ying"),
   (0x8cd, "Xun Zhen She Bin Bin Qiu She Chuan Zang Zhou Lai Zan Si Chen Shang Tian"),
   (0x8ce, "Pei Geng Xian Mai Jian Sui Fu Tan Cong Cong Zhi Lai Zhang Du Jin Xiong"),
   (0x8cf, "Shun Yun Bao Zai Lai Feng Cang Ji Sheng Ai Zhuan Fu Gou Sai Ze Liao"),
   (0x8d0, "Wei Bai Chen Zhuan Zhi Zhui Biao Yun Zeng Tan Zan Yan pu Shan Wan Ying"),
   (0x8d1, "Jin Gan Xian Zang Bi Du Shu Yan shang Xuan Long Gan Zang Bei Zhen Fu"),
   (0x8d2, "Yuan Gong Cai Ze Xian Bai Zhang Huo Zhi Fan Tan Pin Bian Gou Zhu Guan"),
   (0x8d3, "Er Jian Bi Shi Tie Gui Kuang Dai Mao Fei He Yi Zei Zhi Jia Hui"),
   (0x8d4, "Zi Ren Lu Zang Zi Gai Jin Qiu Zhen Lai She Fu Du Ji Shu Shang"),
   (0x8d5, "Si Bi Zhou Geng Pei Tan Lai Feng Zhui Fu Zhuan Sai Ze Yan Zan Yun"),
   (0x8d6, "Zeng Shan Ying Gan Chi Xi She Nan Xiong Xi Cheng He Cheng Zhe Xia Tang"),
   (0x8d7, "Zou Zou Li Jiu Fu Zhao Gan Qi Shan Qiong Qin Xian Ci Jue Qin Chi"),
   (0x8d8, "Ci Chen Chen Die Ju Chao Di Se Zhan Zhu Yue Qu Jie Chi Chu Gua"),
   (0x8d9, "Xue Ci Tiao Duo Lie Gan Suo Cu Xi Zhao Su Yin Ju Jian Que Tang"),
   (0x8da, "Chuo Cui Lu Qu Dang Qiu Zi Ti Qu Chi Huang Qiao Qiao Yao Zao Ti"),
   (0x8db, "er Zan Zan Zu Pa Bao Ku Ke Dun Jue Fu Chen Jian Fang Zhi Sa"),
   (0x8dc, "Yue Pa Qi Yue Qiang Tuo Tai Yi Nian Ling Mei Ba Die Ku Tuo Jia"),
   (0x8dd, "Ci Pao Qia Zhu Ju Die Zhi Fu Pan Ju Shan Bo Ni Ju Li Gen"),
   (0x8de, "Yi Ji Dai Xian Jiao Duo Zhu Zhuan Kua Zhuai Gui Qiong Kui Xiang Chi Lu"),
   (0x8df, "Beng Zhi Jia Tiao Cai Jian Ta Qiao Bi Xian Duo Ji Ju Ji Shu Tu"),
   (0x8e0, "Chu Jing Nie Xiao Bo Chi Qun Mou Shu Lang Yong Jiao Chou Qiao mou Ta"),
   (0x8e1, "Jian Qi Wo Wei Zhuo Jie Ji Nie Ju Ju Lun Lu Leng Huai Ju Chi"),
   (0x8e2, "Wan Quan Ti Bo Zu Qie Ji Cu Zong Cai Zong Peng Zhi Zheng Dian Zhi"),
   (0x8e3, "Yu Duo Dun Chun Yong Zhong Di Zhe Chen Chuai Jian Gua Tang Ju Fu Zu"),
   (0x8e4, "Die Pian Rou Nuo Ti Cha Tui Jian Dao Cuo Xi Ta Qiang Zhan Dian Ti"),
   (0x8e5, "Ji Nie Man Liu Zhan Bi Chong Lu Liao Cu Tang Dai Suo Xi Kui Ji"),
   (0x8e6, "Zhi Qiang Di Man Zong Lian Beng Zao Nian Bie Tui Ju Deng Ceng Xian Fan"),
   (0x8e7, "Chu Zhong Dun Bo Cu Zu Jue Jue Lin Ta Qiao Qiao Pu Liao Dun Cuan"),
   (0x8e8, "Kuang Zao Ta Bi Bi Zhu Ju Chu Qiao Dun Chou Ji Wu Yue Nian Lin"),
   (0x8e9, "Lie Zhi Li Zhi Chan Chu Duan Wei Long Lin Xian Wei Zuan Lan Xie Rang"),
   (0x8ea, "Xie Nie Ta Qu Jie Cuan Zuan Xi Kui Jue Lin Shen Gong Dan Segare Qu"),
   (0x8eb, "Ti Duo Duo Gong Lang Nerau Luo Ai Ji Ju Tang Utsuke lao Yan Shitsuke Kang"),
   (0x8ec, "Qu Lou Lao Tuo Zhi Yagate Ti Dao Yagate Yu Che Ya Gui Jun Wei Yue"),
   (0x8ed, "Xin Di Xuan Fan Ren Shan Qiang Shu Tun Chen Dai E Na Qi Mao Ruan"),
   (0x8ee, "Ren Fan Zhuan Hong Hu Qu Huang Di Ling Dai Ao Zhen Fan Kuang Ang Peng"),
   (0x8ef, "Bei Gu Ku Pao Zhu Rong E Ba Zhou Zhi Yao Ke Yi Qing Shi Ping"),
   (0x8f0, "Er Qiong Ju Jiao Guang Lu Kai Quan Zhou Zai Zhi She Liang Yu Shao You"),
   (0x8f1, "Huan Yun Zhe Wan Fu Qing Zhou Ni Ling Zhe Zhan Liang Zi Hui Wang Chuo"),
   (0x8f2, "Guo Kan Yi Peng Qian Gun Nian Pian Guan Bei Lun Pai Liang Ruan Rou Ji"),
   (0x8f3, "Yang Xian Chuan Cou Qun Ge You Hong Shu Fu Zi Fu Wen Ben Zhan Yu"),
   (0x8f4, "Wen Tao Gu Zhen Xia Yuan Lu Jiu Chao Zhuan Wei Hun Sori Che Jiao Zhan"),
   (0x8f5, "Pu Lao Fen Fan Lin Ge Se Kan Huan Yi Ji Dui Er Yu Xian Hong"),
   (0x8f6, "Lei Pei Li Li Lu Lin Che Ya Gui Xuan Di Ren Zhuan E Lun Ruan"),
   (0x8f7, "Hong Ku Ke Lu Zhou Zhi Yi Hu Zhen Li Yao Qing Shi Zai Zhi Jiao"),
   (0x8f8, "Zhou Quan Lu Jiao Zhe Fu Liang Nian Bei Hui Gun Wang Liang Chuo Zi Cou"),
   (0x8f9, "Fu Ji Wen Shu Pei Yuan Xia Zhan Lu Che Lin Xin Gu Ci Ci Pi"),
   (0x8fa, "Zui Bian La La Ci Xue Ban Bian Bian Bian xue Bian Ban Ci Bian Bian"),
   (0x8fb, "Chen Ru Nong Nong Zhen Chuo Chuo Suberu Reng Bian Bian Sip Ip Liao Da Chan"),
   (0x8fc, "Gan Qian Yu Yu Qi Xun Yi Guo Mai Qi Za Wang Jia Zhun Ying Ti"),
   (0x8fd, "Yun Jin Hang Ya Fan Wu Da E Huan Zhe Totemo Jin Yuan Wei Lian Chi"),
   (0x8fe, "Che Ni Tiao Zhi Yi Jiong Jia Chen Dai Er Di Po Wang Die Ze Tao"),
   (0x8ff, "Shu Tuo Kep Jing Hui Tong You Mi Beng Ji Nai Yi Jie Zhui Lie Xun")]

end Stencil.Text.Spelling
