/-!
Readings of the Han characters from U+4E00 to U+5FFF, in rows of sixteen.
-/
namespace Stencil.Text.Spelling

/-- Rows of readings under the code point of their first character divided by sixteen. -/
def hanFirst : List (Nat × String) :=
  [(0x4e0, "Yi Ding Kao Qi Shang Xia han Mo Zhang San Shang Xia Ji Bu Yu Mian"),
   (0x4e1, "Gai Chou Chou Zhuan Qie Pi Shi Shi Qiu Bing Ye Cong Dong Si Cheng Diu"),
   (0x4e2, "Qiu Liang Diu You Liang Yan Bing Sang Gun Jiu Ge Ya Qiang Zhong Ji Jie"),
   (0x4e3, "Feng Guan Chuan Chan Lin Zhuo Zhu Ha Wan Dan Wei Zhu Jing Li Ju Pie"),
   (0x4e4, "Fu Yi Yi Nai Shime Jiu Jiu Zhe Yao Yi yi Zhi Wu Zha Hu Fa"),
   (0x4e5, "Le Zhong Ping Pang Qiao Hu Guai Cheng Cheng Yi Yin ya Mie Jiu Qi Ye"),
   (0x4e6, "Xi Xiang Gai Diu Hal hu Shu Twul Shi Ji Nang Jia Kel Shi mao Ol"),
   (0x4e7, "Mai Luan Kal Ru Xue Yan Fu Sha Na Gan Sol El Cwul zhe Gan Chi"),
   (0x4e8, "Gui Gan Luan Lin Yi Jue Liao Ma Yu Zheng Shi Shi Er Chu Yu Yu"),
   (0x4e9, "Yu Yun Hu Qi Wu Jing Si Sui Gen Gen Ya Xie Ya Qi Ya Ji"),
   (0x4ea, "Tou Wang Kang Ta Jiao Hai Yi Chan Heng Mu ye Xiang Jing Ting Liang Xiang"),
   (0x4eb, "Jing Ye Qin Bo You Xie Dan Lian Duo Wei Ren Ren Ji La Wang Yi"),
   (0x4ec, "Shi Ren Le Ding Ze Jin Pu Chou Ba Zhang Jin Jie Bing Reng Cong Fo"),
   (0x4ed, "San Lun Sya Cang Zi Shi Ta Zhang Fu Xian Xian Tuo Hong Tong Ren Qian"),
   (0x4ee, "Gan Yi Di Dai Ling Yi Chao Chang Sa chang Yi Mu Men Ren Jia Chao"),
   (0x4ef, "Yang Qian Zhong Pi Wan Wu Jian Jie Yao Feng Cang Ren Wang Fen Di Fang"),
   (0x4f0, "Zhong Qi Pei Yu Diao Dun Wen Yi Xin Kang Yi Ji Ai Wu Ji Fu"),
   (0x4f1, "Fa Xiu Jin Bei Dan Fu Tang Zhong You Huo Hui Yu Cui Chuan San Wei"),
   (0x4f2, "Chuan Che Ya Xian Shang Chang Lun Cang Xun Xin Wei Zhu ze Xuan Nu Bo"),
   (0x4f3, "Gu Ni Ni Xie Ban Xu Ling Zhou Shen Qu Si Beng Si Jia Pi Yi"),
   (0x4f4, "Si Ai Zheng Dian Han Mai Dan Zhu Bu Qu Bi Shao Ci Wei Di Zhu"),
   (0x4f5, "Zuo You Yang Ti Zhan He Bi Tuo She Yu Yi Fo Zuo Kou Ning Tong"),
   (0x4f6, "Ni Xuan Qu Yong Wa Qian shi Ka bao Pei Huai He Lao Xiang Ge Yang"),
   (0x4f7, "Bai Fa Ming Jia Er Bing Ji Hen Huo Gui Quan Tiao Jiao Ci Yi Shi"),
   (0x4f8, "Xing Shen Tuo Kan Zhi Gai Lai Yi Chi Kua Guang Li Yin Shi Mi Zhu"),
   (0x4f9, "Xu You An Lu Mou Er Lun Tong Cha Chi Xun Gong Zhou Yi Ru Jian"),
   (0x4fa, "Xia Jia Zai Lu Ko Jiao Zhen Ce Qiao Kuai Chai Ning Nong Jin Wu Hou"),
   (0x4fb, "Jiong Cheng Zhen Zuo Chou Qin Lu Ju Shu Ting Shen Tuo Bo Nan Hao Bian"),
   (0x4fc, "Tui Yu Xi Cu E Qiu Xu Kuang Ku Wu Jun Yi Fu Lang Zu Qiao"),
   (0x4fd, "Li Yong Hun Jing Xian San Pai Su Fu Xi Li Fu Ping Bao Yu Si"),
   (0x4fe, "Xia Xin Xiu Yu Ti Che Chou zhi Yan Lia Li Lai si Jian Xiu Fu"),
   (0x4ff, "He Ju Xiao Pai Jian Biao Chu Fei Feng Ya An Bei Yu Xin Bi Jian"),
   (0x500, "Chang Chi Bing Zan Yao Cui Lia Wan Lai Cang Zong Ge Guan Bei Tian Shu"),
   (0x501, "Shu Men Dao Tan Jue Chui Xing Peng Tang Hou Yi Qi Ti Gan Jing Jie"),
   (0x502, "Sui Chang Jie Fang Zhi Kong Juan Zong Ju Qian Ni Lun Zhuo Wei Luo Song"),
   (0x503, "Leng Hun Dong Zi Ben Wu Ju Nai Cai Jian Zhai Ye Zhi Sha Qing ning"),
   (0x504, "Ying Cheng Jian Yan Nuan Zhong Chun Jia Jie Wei Yu Bing Ruo Ti Wei Pian"),
   (0x505, "Yan Feng Tang Wo E Xie Che Sheng Kan Di Zuo Cha Ting Bei Ye Huang"),
   (0x506, "Yao Zhan Chou Yan You Jian Xu Zha Ci Fu Bi Zhi Zong Mian Ji Yi"),
   (0x507, "Xie Xun Si Duan Ce Zhen Ou Tou Tou Bei Za Lu Jie Wei Fen Chang"),
   (0x508, "Gui Sou Zhi Su Xia Fu Yuan Rong Li Ru Yun Gou Ma Bang Dian Tang"),
   (0x509, "Hao Jie Xi Shan Qian Jue Cang Chu San Bei Xiao Yong Yao Tan Suo Yang"),
   (0x50a, "Fa Bing Jia Dai Zai Tang gu Bin Chu Nuo Can Lei Cui Yong Zao Zong"),
   (0x50b, "Peng Song Ao Chuan Yu Zhai Cou Shang Qiang Jing Chi Sha Han Zhang Qing Yan"),
   (0x50c, "Di Xi Lu Bei Piao Jin Lian Lu Man Qian Xian Tan Ying Dong Zhuan Xiang"),
   (0x50d, "Shan Qiao Jiong Tui Zun Pu Xi Lao Chang Guang Liao Qi Deng Chan Wei Ji"),
   (0x50e, "Fan Hui Chuan Jian Dan Jiao Jiu Seng Fen Xian Jue E Jiao Jian Tong Lin"),
   (0x50f, "Bo Gu xian Su Xian Jiang Min Ye Jin Jia Qiao Pi Feng Zhou Ai Sai"),
   (0x510, "Yi Jun Nong Chan Yi Dang Jing Xuan Kuai Jian Chu Dan Jiao Sha Zai can"),
   (0x511, "Bin An Ru Tai Chou Chai Lan Ni Jin Qian Meng Wu Ning Qiong Ni Chang"),
   (0x512, "Lie Lei Lu Kuang Bao Du Biao Zan Zhi Si You Hao Chen Chen Li Teng"),
   (0x513, "Wei Long Chu Chan Rang Shu Hui Li Luo Zan Nuo Tang Yan Lei Nang Er"),
   (0x514, "Wu Yun Zan Yuan Xiong Chong Zhao Xiong Xian Guang Dui Ke Dui Mian Tu Chang"),
   (0x515, "Er Dui Er Jin Tu Si Yan Yan Shi Shi Dang Qian Dou Fen Mao Shen"),
   (0x516, "Dou Bai Jing Li Huang Ru Wang Nei Quan Liang Yu Ba Gong Liu Xi han"),
   (0x517, "Lan Gong Tian Guan Xing Bing Qi Ju Dian Zi Ppwun Yang Jian Shou Ji Yi"),
   (0x518, "Ji Chan Jiong Mao Ran Nei Yuan Mao Gang Ran Ce Jiong Ce Zai Gua Jiong"),
   (0x519, "Mao Zhou Mou Gou Xu Mian Mi Rong Yin Xie Kan Jun Nong Yi Mi Shi"),
   (0x51a, "Guan Meng Zhong Ju Yuan Ming Kou Lam Fu Xie Mi Bing Dong Tai Gang Feng"),
   (0x51b, "Bing Hu Chong Jue Hu Kuang Ye Leng Pan Fu Min Dong Xian Lie Xia Jian"),
   (0x51c, "Jing Shu Mei Tu Qi Gu Zhun Song Jing Liang Qing Diao Ling Dong Gan Jian"),
   (0x51d, "Yin Cou Yi Li Cang Ming Zhuen Cui Si Duo Jin Lin Lin Ning Xi Du"),
   (0x51e, "Ji Fan Fan Fan Feng Ju Chu Tako Feng Mok Ci Fu Feng Ping Feng Kai"),
   (0x51f, "Huang Kai Gan Deng Ping Qu Xiong Kuai Tu Ao Chu Ji Dang Han Han Zao"),
   (0x520, "Dao Diao Dao Ren Ren Chuang Fen Qie Yi Ji Kan Qian Cun Chu Wen Ji"),
   (0x521, "Dan Xing Hua Wan Jue Li Yue Lie Liu Ze Gang Chuang Fu Chu Qu Ju"),
   (0x522, "Shan Min Ling Zhong Pan Bie Jie Jie Bao Li Shan Bie Chan Jing Gua Gen"),
   (0x523, "Dao Chuang Kui Ku Duo Er Zhi Shua Quan Cha Ci Ke Jie Gui Ci Gui"),
   (0x524, "Kai Duo Ji Ti Jing Lou Luo Ze Yuan Cuo Xue Ke La Qian Cha Chuan"),
   (0x525, "Gua Jian Cuo Li Ti Fei Pou Chan Qi Chuang Zi Gang Wan Bo Ji Duo"),
   (0x526, "Qing Yan Zhuo Jian Ji Bo Yan Ju Huo Sheng Jian Duo Duan Wu Gua Fu"),
   (0x527, "Sheng Jian Ge Zha Kai Chuang Juan Chan Tuan Lu Li Fou Shan Piao Kou Jiao"),
   (0x528, "Gua Qiao Jue Hua Zha Zhuo Lian Ju Pi Liu Gui Jiao Gui Jian Jian Tang"),
   (0x529, "Huo Ji Jian Yi Jian Zhi Chan Cuan Mo Li Zhu Li Ya Quan Ban Gong"),
   (0x52a, "Jia Wu Mai Lie Jin Keng Xie Zhi Dong Zhu Nu Jie Qu Shao Yi Zhu"),
   (0x52b, "Miao Li Jing Lao Lao Juan Kou Yang Wa Xiao Mou Kuang Jie Lie He Shi"),
   (0x52c, "Ke Jing Hao Bo Min Chi Lang Yong Yong Mian Ke Xun Juan Qing Lu Pou"),
   (0x52d, "Meng Lai Le Kai Mian Dong Xu Xu Kan Wu Yi Xun Weng Sheng Lao Mu"),
   (0x52e, "Lu Piao Shi Ji Qin Qiang Jiao Quan Yang Yi Jue Fan Juan Tong Ju Dan"),
   (0x52f, "Xie Mai Xun Xun Lu Li Che Rang Quan Bao Shao Yun Jiu Bao Gou Wu"),
   (0x530, "Yun Mwun Nay Gai Gai Bao Cong yi Xiong Peng Ju Tao Ge Pu An Pao"),
   (0x531, "Fu Gong Da Jiu Qiong Bi Hua Bei Nao Chi Fang Jiu Yi Za Jiang Kang"),
   (0x532, "Jiang Kuang Hu Xia Qu Bian Gui Qie Zang Kuang Fei Hu Tou Gui Gui Hui"),
   (0x533, "Dan Gui Lian Lian Suan Du Jiu Qu Xi Pi Qu Yi Qia Yan Bian Ni"),
   (0x534, "Qu Shi Xin Qian Nian Sa Zu Sheng Wu Hui Ban Shi Xi Wan Hua Xie"),
   (0x535, "Wan Bei Zu Zhuo Xie Dan Mai Nan Dan Ji Bo Shuai Bu Kuang Bian Bu"),
   (0x536, "Zhan Qia Lu You Lu Xi Gua Wo Xie Jie Jie Wei Ang Qiong Zhi Mao"),
   (0x537, "Yin Wei Shao Ji Que Luan Shi Juan Xie Xu Jin Que Wu Ji E Qing"),
   (0x538, "Xi san Han Zhan E Ting Li Zhe Han Li Ya Ya Yan She Zhi Zha"),
   (0x539, "Pang ya He Ya Zhi Ce Pang Ti Li She Hou Ting Zui Cuo Fei Yuan"),
   (0x53a, "Ce Yuan Xiang Yan Li Jue Sha Dian Chu Jiu Qin Ao Gui Yan Si Li"),
   (0x53b, "Chang Lan Li Yan Yan Yuan Si Gong Lin Qiu Qu Qu Uk Lei Du Xian"),
   (0x53c, "Zhuan San Can Can Can Can Ai Dai You Cha Ji You Shuang Fan Shou Guai"),
   (0x53d, "Ba Fa Ruo Shi Shu Zhuo Qu Shou Bian Xu Jia Pan Sou Gao Wei Sou"),
   (0x53e, "Die Rui Cong Kou Gu Ju Ling Gua Tao Kou Zhi Jiao Zhao Ba Ding Ke"),
   (0x53f, "Tai Chi Shi You Qiu Po Xie Hao Si Tan Chi Le Diao Ji liao Hong"),
   (0x540, "Mie Xu Mang Chi Ge Xuan Yao Zi He Ji Diao Cun Tong Ming Hou Li"),
   (0x541, "Tu Xiang Zha Xia Ye Lu A Ma Ou Xue Yi Jun Chou Lin Tun Yin"),
   (0x542, "Fei Bi Qin Qin Jie Bu Fou Ba Dun Fen E Han Ting Hang Shun Qi"),
   (0x543, "Hong Zhi Shen Wu Wu Chao Ne Xue Xi Chui Dou Wen Hou Ou Wu Gao"),
   (0x544, "Ya Jun Lu E Ge Mei Ai Qi Cheng Wu Gao Fu Jiao Hong Chi Sheng"),
   (0x545, "Ne Tun Fu Yi Dai Ou Li Bai Yuan Kuai wen Qiang Wu E Shi Quan"),
   (0x546, "Pen Wen Ni M Ling Ran You Di Zhou Shi Zhou Tie Xi Yi Qi Ping"),
   (0x547, "Zi Gu Zi Wei Xu He Nao Xia Pei Yi Xiao Shen Hu Ming Da Qu"),
   (0x548, "Ju Gem Za Tuo Duo Pou Pao Bi Fu Yang He Zha He Hai Jiu Yong"),
   (0x549, "Fu Que Zhou Wa Ka Gu Ka Zuo Bu Long Dong Ning Tha Si Xian Huo"),
   (0x54a, "Qi Er E Guang Zha Xi Yi Lie Zi Mie Mi Zhi Yao Ji Zhou Ge"),
   (0x54b, "Shuai Zan Xiao Ke Hui Kua Huai Tao Xian E Xuan Xiu Wai Yan Lao Yi"),
   (0x54c, "Ai Pin Shen Tong Hong Xiong Chi Wa Ha Zai Yu Di Pai Xiang Ai Hen"),
   (0x54d, "Kuang Ya Da Xiao Bi Yue nian Hua Sasou Kuai Duo fen Ji Nong Mou Yo"),
   (0x54e, "Hao Yuan Long Pou Mang Ge E Chi Shao Li Na Zu He Ku Xiao Xian"),
   (0x54f, "Lao Bo Zhe Zha Liang Ba Mie Le Sui Fou Bu Han Heng Geng Shuo Ge"),
   (0x550, "You Yan Gu Gu Bai Han Suo Chun Yi Ai Jia Tu Xian Huan Li Xi"),
   (0x551, "Tang Zuo Qiu Che Wu Zao Ya Dou Qi Di Qin Ma Mal Hong Dou Kes"),
   (0x552, "Lao Liang Suo Zao Huan Lang Sha Ji Zuo Wo Feng Yin Hu Qi Shou Wei"),
   (0x553, "Shua Chang Er Li Qiang An Jie Yo Nian Yu Tian Lai Sha Xi Tuo Hu"),
   (0x554, "Ai Zhou Nou Ken Zhuo Zhuo Shang Di Heng Lan A Xiao Xiang Tun Wu Wen"),
   (0x555, "Cui Sha Hu Qi Qi Tao Dan Dan Ye Zi Bi Cui Chuo He Ya Qi"),
   (0x556, "Zhe Pei Liang Xian Pi Sha La Ze Qing Gua Pa Zhe Se Zhuan Nie Guo"),
   (0x557, "Luo Yan Di Quan Tan Bo Ding Lang Xiao ju Tang Chi Ti An Jiu Dan"),
   (0x558, "Ke Yong Wei Nan Shan Yu Zhe La Jie Hou Han Die Zhou Chai Wai Re"),
   (0x559, "Yu Yin Zan Yao Wo Mian Hu Yun Chuan Hui Huan Huan Xi He Ji Kui"),
   (0x55a, "Zhong Wei Sha Xu Huang Du Nie Xuan Liang Yu Sang Chi Qiao Yan Dan Pen"),
   (0x55b, "Can Li Yo Zha Wei Miao Ying Pen Phos Kui Xi Yu Jie Lou Ku Sao"),
   (0x55c, "Huo Ti Yao He A Xiu Qiang Se Yong Su Hong Xie Yi Suo Ma Cha"),
   (0x55d, "Hai Ke Ta Sang Tian Ru Sou Wa Ji Pang Wu Xian Shi Ge Zi Jie"),
   (0x55e, "Luo Weng Wa Si Chi Hao Suo Jia Hai Suo Qin Nie He Cis Sai Ng"),
   (0x55f, "Ge Na Dia Ai qiang Tong Bi Ao Ao Lian Cui Zhe Mo Sou Sou Tan"),
   (0x560, "Di Qi Jiao Chong Jiao Kai Tan San Cao Jia Ai Xiao Piao Lou Ga Gu"),
   (0x561, "Xiao Hu Hui Guo Ou Xian Ze Chang Xu Po De Ma Ma Hu Lei Du"),
   (0x562, "Ga Tang Ye Beng Ying Saai Jiao Mi Xiao Hua Mai Ran Zuo Peng Lao Xiao"),
   (0x563, "Ji Zhu Chao Kui Zui Xiao Si Hao Fu Liao Qiao Xi Xiu Tan Tan Mo"),
   (0x564, "Xun E Zun Fan Chi Hui Zan Chuang Cu Dan Yu Tun Cheng Jiao Ye Xi"),
   (0x565, "Qi Hao Lian Xu Deng Hui Yin Pu Jue Qin Xun Nie Lu Si Yan Ying"),
   (0x566, "Da Dan Yu Zhou Jin Nong Yue Hui Qi E Zao Yi Shi Jiao Yuan Ai"),
   (0x567, "Yong Jue Kuai Yu Pen Dao Ge Xin Dun Dang Sin Sai Pi Pi Yin Zui"),
   (0x568, "Ning Di Lan Ta Huo Ru Hao Xia Ya Duo Xi Chou Ji Jin Hao Ti"),
   (0x569, "Chang xun me Ca Ti Lu Hui Bo You Nie Yin Hu Mo Huang Zhe Li"),
   (0x56a, "Liu Haai Nang Xiao Mo Yan Li Lu Long Fu Dan Chen Pin Pi Xiang Huo"),
   (0x56b, "Mo Xi Duo Ku Yan Chan Ying Rang Dian La Ta Xiao Jiao Chuo Huan Huo"),
   (0x56c, "Zhuan Nie Xiao Ca Li Chan Chai Li Yi Luo Nang Zan Su Xi So Jian"),
   (0x56d, "Za Zhu Lan Nie Nang lan lo Wei Hui Yin Qiu Si Nin Jian Hui Xin"),
   (0x56e, "Yin Nan Tuan Tuan Dun Kang Yuan Jiong Pian Yun Cong Hu Hui Yuan You Guo"),
   (0x56f, "Kun Cong Wei Tu Wei Lun Guo Qun Ri Ling Gu Guo Tai Guo Tu You"),
   (0x570, "Guo Yin Hun Pu Yu Han Yuan Lun Quan Yu Qing Guo Chuan Wei Yuan Quan"),
   (0x571, "Ku Fu Yuan Yuan E Tu Tu Tu Tuan Lue Hui Yi Yuan Luan Luan Tu"),
   (0x572, "Ya Tu Ting Sheng Pu Lu Iri Ya Zai Wei Ge Yu Wu Gui Pi Yi"),
   (0x573, "Di Qian Qian Zhen Zhuo Dang Qia Akutsu Yama Kuang Chang Qi Nie Mo Ji Jia"),
   (0x574, "Zhi Zhi Ban Xun Tou Qin Fen Jun Keng Tun Fang Fen Ben Tan Kan Pi"),
   (0x575, "Zuo Keng Bi Xing Di Jing Ji Kuai Di Jing Jian Tan Li Ba Wu Fen"),
   (0x576, "Zhui Po Pan Tang Kun Qu Tan Zhi Tuo Gan Ping Dian Gua Ni Tai Pi"),
   (0x577, "Jiong Yang Fo Ao Liu Qiu Mu Ke Gou Xue Ba Chi Che Ling Zhu Fu"),
   (0x578, "Hu Zhi Chui La Long Long Lu Ao Tay Pao min Xing Dong Ji Ke Lu"),
   (0x579, "Ci Chi Lei Gai Yin Hou Dui Zhao Fu Guang Yao Duo Duo Gui Cha Yang"),
   (0x57a, "Yin Fa Gou Yuan Die Xie Ken Jiong Shou E Ha Dian Hong Wu Kua da"),
   (0x57b, "Tao Dang Kai Gake Nao An Xing Xian Huan Bang Pei Ba Yi Yin Han Xu"),
   (0x57c, "Chui Cen Geng Ai Peng Fang Que Yong Xun Jia Di Mai Lang Xuan Cheng Yan"),
   (0x57d, "Jin Zhe Lei Lie Bu Cheng Gomi Bu Shi Xun Guo Jiong Ye Nian Di Yu"),
   (0x57e, "Bu Ya Juan Sui Pi Cheng Wan Ju Lun Zheng Kong Chong Dong Dai Tan An"),
   (0x57f, "Cai Shu Beng Kan Zhi Duo Yi Zhi Yi Pei Ji Zhun Qi Sao Ju Ni"),
   (0x580, "Ku Ke Tang Kun Ni Jian Dui Jin Gang Yu E Peng Gu Tu Leng Fang"),
   (0x581, "Ya Qian Kun An Shen Duo Nao Tu Cheng Yin Hun Bi Lian Guo Die Zhuan"),
   (0x582, "Hou Bao Bao Yu Di Mao Jie Ruan E Geng Kan Zong Yu Huang E Yao"),
   (0x583, "Yan Bao Ji Mei Chang Du Tuo Yin Feng Zhong Jie Zhen Feng Gang Chuan Jian"),
   (0x584, "Pyeng Toride Xiang Huang Leng Duan wan Xuan Ji Ji Kuai Ying Ta Cheng Yong Kai"),
   (0x585, "Su Su Shi Mi Ta Weng Cheng Tu Tang Que Zhong Li Peng Bang Sai Zang"),
   (0x586, "Dui Tian Wu Cheng Xun Ge Zhen Ai Gong Yan Kan Tian Yuan Wen Xie Liu"),
   (0x587, "Ama Lang Chang Peng Beng Chen Cu Lu Ou Qian Mei Mo Zhuan Shuang Shu Lou"),
   (0x588, "Chi Man Biao Jing Qi Shu Di Zhang Kan Yong Dian Chen Zhi Xi Guo Qiang"),
   (0x589, "Jin Di Shang Mu Cui Yan Ta Zeng Qi Qiang Liang wei Zhui Qiao Zeng Xu"),
   (0x58a, "Shan Shan Ba Pu Kuai Dong Fan Que Mo Dun Dun Dun Di Sheng Duo Duo"),
   (0x58b, "Tan Deng Wu Fen Huang Tan Da Ye Sho Mama Yu Qiang Ji Qiao Ken Yi"),
   (0x58c, "Pi Bi Dian Jiang Ye Yong Bo Tan Lan Ju Huai Dang Rang Qian Xun Lan"),
   (0x58d, "Xi He Ai Ya Dao Hao Ruan Mama Lei Kuang Lu Yan Tan Wei Huai Long"),
   (0x58e, "Long Rui Li Lin Rang Ten Xun Yan Lei Ba wan Shi Ren san Zhuang Zhuang"),
   (0x58f, "Sheng Yi Mai Ke Zhu Zhuang Hu Hu Kun Yi Hu Xu Kun Shou Mang Zun"),
   (0x590, "Shou Yi Zhi Gu Chu Jiang Feng Bei Cay Bian Sui Qun Ling Fu Zuo Xia"),
   (0x591, "Xiong xie Nao Xia Kui Xi Wai Yuan Mao Su Duo Duo Ye Qing Uys Gou"),
   (0x592, "Gou Qi Meng Meng Yin Huo Chen Da Ze Tian Tai Fu Guai Yao Yang Hang"),
   (0x593, "Gao Shi Ben Tai Tou Yan Bi Yi Kua Jia Duo Kwu Kuang Yun Jia Pa"),
   (0x594, "En Lian Huan Di Yan Pao Quan Qi Nai Feng Xie Fen Dian quan Kui Zou"),
   (0x595, "Huan Qi Kai Zha Ben Yi Jiang Tao Zang Ben Xi Xiang Fei Diao Xun Keng"),
   (0x596, "Dian Ao She Weng Pan Ao Wu Ao Jiang Lian Duo Yun Jiang Shi Fen Huo"),
   (0x597, "Bi Lian Duo Nu Nu Ding Nai Qian Jian Ta Jiu Nan Cha Hao Xian Fan"),
   (0x598, "Ji Shuo Ru Fei Wang Hong Zhuang Fu Ma Dan Ren Fu Jing Yan Xie Wen"),
   (0x599, "Zhong Pa Du Ji Keng Zhong Yao Jin Yun Miao Pei Shi Yue Zhuang Niu Yan"),
   (0x59a, "Na Xin Fen Bi Yu Tuo Feng Yuan Fang Wu Yu Gui Du Ba Ni Zhou"),
   (0x59b, "Zhuo Zhao Da Nai Yuan Tou Xuan Zhi E Mei Mo Qi Bi Shen Qie E"),
   (0x59c, "He Xu Fa Zheng Min Ban Mu Fu Ling Zi Zi Shi Ran Shan Yang Qian"),
   (0x59d, "Jie Gu Si Xing Wei Zi Ju Shan Pin Ren Yao Tong Jiang Shu Ji Gai"),
   (0x59e, "Shang Kuo Juan Jiao Gou Lao Jian Jian Yi Nian Zhi Ji Ji Xian Heng Guang"),
   (0x59f, "Jun Kua Yan Ming Lie Pei Yan You Yan Cha Shen Yin Chi Gui Quan Zi"),
   (0x5a0, "Song Wei Hong Wa Lou Ya Rao Jiao Luan Ping Xian Shao Li Cheng Xiao Mang"),
   (0x5a1, "Fu Suo Wu Wei Ke Lai Chuo Ding Niang Xing Nan Yu Nuo Pei Nei Juan"),
   (0x5a2, "Shen Zhi Han Di Zhuang E Pin Tui Han Mian Wu Yan Wu Xi Yan Yu"),
   (0x5a3, "Si Yu Wa li Xian Ju Qu Shui Qi Xian Zhui Dong Chang Lu Ai E"),
   (0x5a4, "E Lou Mian Cong Pou Ju Po Cai Ding Wan Biao Xiao Shu Qi Hui Fu"),
   (0x5a5, "E Wo Tan Fei Wei Jie Tian Ni Quan Jing Hun Jing Qian Dian Xing Hu"),
   (0x5a6, "Wa Lai Bi Yin Chou Chuo Fu Jing Lun Yan Lan Kun Yin Ya Ju Li"),
   (0x5a7, "Dian Xian Hwa Hua Ying Chan Shen Ting Dang Yao Wu Nan Ruo Jia Tou Xu"),
   (0x5a8, "Yu Wei Ti Rou Mei Dan Ruan Qin Hui Wu Qian Chun Mao Fu Jie Duan"),
   (0x5a9, "Xi Zhong Mei Huang Mian An Ying Xuan Jie Wei Mei Yuan Zhen Qiu Ti Xie"),
   (0x5aa, "Tuo Lian Mao Ran Si Pian Wei Wa Jiu Hu Ao jie Bou Xu Tou Gui"),
   (0x5ab, "Zou Yao Pi Xi Yuan Ying Rong Ru Chi Liu Mei Pan Ao Ma Gou Kui"),
   (0x5ac, "Qin Jia Sao Zhen Yuan Cha Yong Ming Ying Ji Su Niao Xian Tao Pang Lang"),
   (0x5ad, "Nao Bao Ai Pi Pin Yi Piao Yu Lei Xuan Man Yi Zhang Kang Yong Ni"),
   (0x5ae, "Li Di Gui Yan Jin Zhuan Chang Ce Han Nen Lao Mo Zhe Hu Hu Ao"),
   (0x5af, "Nen Qiang Ma Pie Gu Wu Jiao Tuo Zhan Mao Xian Xian Mo Liao Lian Hua"),
   (0x5b0, "Gui Deng Zhi Xu Yi Hua Xi Hui Rao Xi Yan Chan Jiao Mei Fan Fan"),
   (0x5b1, "Xian Yi Wei Jiao Fu Shi Bi Shan Sui Qiang Lian Huan Xin Niao Dong Yi"),
   (0x5b2, "Can Ai Niang Neng Ma Tiao Chou Jin Ci Yu Pin Yong Xu Nai Yan Tai"),
   (0x5b3, "Ying Can Niao Wo Ying Mian Kaka Ma Shen Xing Ni Du Liu Yuan Lan Yan"),
   (0x5b4, "Shuang Ling Jiao Niang Lan Xian Ying Shuang Shuai Quan Mi Li Luan Yan Zhu Lan"),
   (0x5b5, "Zi Jie Jue Jue Kong Yun Zi Zi Cun Sun Fu Bei Zi Xiao Xin Meng"),
   (0x5b6, "Si Tai Bao Ji Gu Nu Xue you Zhuan Hai Luan Sun Huai Mie Cong Qian"),
   (0x5b7, "Shu Chan Ya Zi Ni Fu Zi Li Xue Bo Ru Lai Nie Nie Ying Luan"),
   (0x5b8, "Mian Zhu Rong Ta Gui Zhai Qiong Yu Shou An Tu Song Wan Rou Yao Hong"),
   (0x5b9, "Yi Jing Zhun Mi Zhu Dang Hong Zong Guan Zhou Ding Wan Yi Bao Shi Shi"),
   (0x5ba, "Chong Shen Ke Xuan Shi You Huan Yi Tiao Shi Xian Gong Cheng Qun Gong Xiao"),
   (0x5bb, "Zai Zha Bao Hai Yan Xiao Jia Shen Chen Rong Huang Mi Kou Kuan Bin Su"),
   (0x5bc, "Cai Zan Ji Yuan Ji Yin Mi Kou Qing Que Zhen Jian Fu Ning Bing Huan"),
   (0x5bd, "Mei Qin Han Yu Shi Ning Qin Ning Zhi Yu Bao Kuan Ning Qin Mo Cha"),
   (0x5be, "Ju Gua Qin Hu Wu Liao Shi Zhu Zhai Shen Wei Xie Kuan Hui Liao Jun"),
   (0x5bf, "Huan Yi Yi Bao Qin Chong Bao Feng Cun Dui Si Xun Dao Lu Dui Shou"),
   (0x5c0, "Po Feng Zhuan Fu She Ke Jiang Jiang Zhuan Wei Zun Xun Shu Dui Dao Xiao"),
   (0x5c1, "Ji Shao Er Er Er Ga Jian Shu Chen Shang Shang Mo Ga Chang Liao Xian"),
   (0x5c2, "Xian kun Wang Wang You Liao Liao Yao Mang Wang Wang Wang Ga Yao Duo Kui"),
   (0x5c3, "Zhong Jiu Gan Gu Gan Tui Gan Gan Shi Yin Chi Kao Ni Jin Wei Niao"),
   (0x5c4, "Ju Pi Ceng Xi Bi Ju Jie Tian Qu Ti Jie Wu Diao Shi Shi Ping"),
   (0x5c5, "Ji Xie Chen Xi Ni Zhan Xi wei Man E Lou Ping Ti Fei Shu Xie"),
   (0x5c6, "Tu Lu Lu Xi Ceng Lu Ju Xie Ju Jue Liao Jue Shu Xi Che Tun"),
   (0x5c7, "Ni Shan wa Xian Li Xue Nata hui Long Yi Qi Ren Wu Han Shen Yu"),
   (0x5c8, "Chu Sui Qi ren Yue Ban Yao Ang Ya Wu Jie E Ji Qian Fen Yuan"),
   (0x5c9, "Qi Cen Qian Qi Cha Jie Qu Gang Xian Ao Lan Dao Ba Zuo Zuo Yang"),
   (0x5ca, "Ju Gang Ke Gou Xue Bei Li Tiao Ju Yan Fu Xiu Jia Ling Tuo Pei"),
   (0x5cb, "You Dai Kuang Yue Qu Hu Po Min An Tiao Ling Chi Yuri Dong Cem Kui"),
   (0x5cc, "Xiu Mao Tong Xue Yi Kura He Ke Luo E Fu Xun Die Lu An Er"),
   (0x5cd, "Gai Quan Tong Yi Mu Shi An Wei Hu Zhi Mi Li Ji Tong Wei You"),
   (0x5ce, "Sang Xia Li Yao Jiao Zheng Luan Jiao E E Yu Ye Bu Qiao Qun Feng"),
   (0x5cf, "Feng Nao Li You Xian Hong Dao Shen Cheng Tu Geng Jun Hao Xia Yin Yu"),
   (0x5d0, "Lang Kan Lao Lai Xian Que Kong Chong Chong Ta Lin Hua Ju Lai Qi Min"),
   (0x5d1, "Kun Kun Zu Gu Cui Ya Ya Gang Lun Lun Leng Jue Duo Zheng Guo Yin"),
   (0x5d2, "Dong Han Zheng Wei Yao Pi Yan Song Jie Beng Zu Jue Dong Zhan Gu Yin"),
   (0x5d3, "zi Ze Huang Yu Wei Yang Feng Qiu Dun Ti Yi Zhi Shi Zai Yao E"),
   (0x5d4, "Zhu Kan Lu Yan Mei Gan Ji Ji Huan Ting Sheng Mei Qian Wu Yu Zong"),
   (0x5d5, "Lan Jue Yan Yan Wei Zong Cha Sui Rong Yamashina Qin Yu Kewashii Lou Tu Dui"),
   (0x5d6, "Xi Weng Cang Dang Hong Jie Ai Liu Wu Song Qiao Zi Wei Beng Dian Cuo"),
   (0x5d7, "Qian Yong Nie Cuo Ji shi Tao Song Zong Jiang Liao Kang Chan Die Cen Ding"),
   (0x5d8, "Tu Lou Zhang Zhan Zhan Ao Cao Qu Qiang Zui Zui Dao Dao Xi Yu Bo"),
   (0x5d9, "Long Xiang Ceng Bo Qin Jiao Yan Lao Zhan Lin Liao Liao Jin Deng Duo Zun"),
   (0x5da, "Jiao Gui Yao Qiao Yao Jue Zhan Yi Xue Nao Ye Ye Yi E Xian Ji"),
   (0x5db, "Xie Ke Xi Di Ao Zui wei Ni Rong Dao Ling Za Yu Yue Yin ru"),
   (0x5dc, "Jie Li Sui Long Long Dian Ying Xi Ju Chan Ying Kui Yan Wei Nao Quan"),
   (0x5dd, "Chao Cuan Luan Dian Dian nie Yan Yan Yan Nao Yan Chuan Gui Chuan Zhou Huang"),
   (0x5de, "Jing Xun Chao Chao Lie Gong Zuo Qiao Ju Gong Kek Wu Pwu Pwu Chai Qiu"),
   (0x5df, "Qiu Ji Yi Si Ba Zhi Zhao Xiang Yi Jin Xun Juan Phas Xun Jin Fu"),
   (0x5e0, "Za Bi Shi Bu Ding Shuai Fan Nie Shi Fen Pa Zhi Xi Hu Dan Wei"),
   (0x5e1, "Zhang Tang Dai Ma Pei Pa Tie Fu Lian Zhi Zhou Bo Zhi Di Mo Yi"),
   (0x5e2, "Yi Ping Qia Juan Ru Shuai Dai Zheng Shui Qiao Zhen Shi Qun Xi Bang Dai"),
   (0x5e3, "Gui Chou Ping Zhang Sha Wan Dai Wei Chang Sha Qi Ze Guo Mao Du Hou"),
   (0x5e4, "Zheng Xu Mi Wei Wo Fu Yi Bang Ping Tazuna Gong Pan Huang Dao Mi Jia"),
   (0x5e5, "Teng Hui Zhong Shan Man Mu Biao Guo Ze Mu Bang Zhang Jiong Chan Fu Zhi"),
   (0x5e6, "Hu Fan Chuang Bi Hei zhang Mi Qiao Chan Fen Meng Bang Chou Mie Chu Jie"),
   (0x5e7, "Xian Lan Gan Ping Nian Qian Bing Bing Xing Gan Yao Huan You You Ji Yan"),
   (0x5e8, "Pi Ting Ze Guang Zhuang Mo Qing Bi Qin Dun Chuang Gui Ya Bai Jie Xu"),
   (0x5e9, "Lu Wu zhuang Ku Ying Di Pao Dian Ya Miao Geng Ci Fu Tong Pang Fei"),
   (0x5ea, "Xiang Yi Zhi Tiao Zhi Xiu Du Zuo Xiao Tu Gui Ku Pang Ting You Bu"),
   (0x5eb, "Ding Cheng Lai Bei Ji An Shu Kang Yong Tuo Song Shu Qing Yu Yu Miao"),
   (0x5ec, "Sou Ce Xiang Fei Jiu He Hui Liu Sha Lian Lang Sou Jian Pou Qing Jiu"),
   (0x5ed, "Jiu Qin Ao Kuo Lou Yin Liao Dai Lu Yi Chu Chan Tu Si Xin Miao"),
   (0x5ee, "Chang Wu Fei Guang Koc Kuai Bi Qiang Xie Lin Lin Liao Lu ji Ying Xian"),
   (0x5ef, "Ting Yong Li Ting Yin Xun Yan Ting Di Po Jian Hui Nai Hui Gong Nian"),
   (0x5f0, "Kai Bian Yi Qi Nong Fen Ju Yan Yi Zang Bi Yi Yi Er San Shi"),
   (0x5f1, "Er Shi Shi Gong Diao Yin Hu Fu Hong Wu Tui Chi Jiang Ba Shen Di"),
   (0x5f2, "Zhang Jue Tao Fu Di Mi Xian Hu Chao Nu Jing Zhen Yi Mi Quan Wan"),
   (0x5f3, "Shao Ruo Xuan Jing Dun Zhang Jiang Qiang Peng Dan Qiang Bi Bi She Dan Jian"),
   (0x5f4, "Gou Sei Fa Bi Kou Nagi Bie Xiao Dan Kuo Qiang Hong Mi Kuo Wan Jue"),
   (0x5f5, "Ji Ji Gui Dang Lu Lu Tuan Hui Zhi Hui Hui Yi Yi Yi Yi Huo"),
   (0x5f6, "Huo Shan Xing Wen Tong Yan Yan Yu Chi Cai Biao Diao Bin Peng Yong Piao"),
   (0x5f7, "Zhang Ying Chi Chi Zhuo Tuo Ji Pang Zhong Yi Wang Che Bi Chi Ling Fu"),
   (0x5f8, "Wang Zheng Cu Wang Jing Dai Xi Xun Hen Yang Huai Lu Hou Wa Cheng Zhi"),
   (0x5f9, "Xu Jing Tu Cong zhi Lai Cong De Pai Xi dong Qi Chang Zhi Cong Zhou"),
   (0x5fa, "Lai Yu Xie Jie Jian Chi Jia Bian Huang Fu Xun Wei Pang Yao Wei Xi"),
   (0x5fb, "Zheng Piao Chi De Zheng Zheng Bie De Chong Che Jiao Wei Jiao Hui Mei Long"),
   (0x5fc, "Xiang Bao Qu Xin Shu Bi Yi Le Ren Dao Ding Gai Ji Ren Ren Chan"),
   (0x5fd, "Tan Te Te Gan Qi Shi Cun Zhi Wang Mang Xi Fan Ying Tian Min Wen"),
   (0x5fe, "Zhong Chong Wu Ji Wu Xi Ye You Wan Cong Zhong Kuai Yu Bian Zhi Qi"),
   (0x5ff, "Cui Chen Tai Tun Qian Nian Hun Xiong Niu Wang Xian Xin Kang Hu Kai Fen")]

end Stencil.Text.Spelling
