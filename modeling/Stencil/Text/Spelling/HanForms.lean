/-!
Readings of the Han characters for compatibility from U+F900 to U+FAFF, in rows of sixteen.
-/
namespace Stencil.Text.Spelling

/-- Rows of readings under the code point of their first character divided by sixteen. -/
def hanForms : List (Nat × String) :=
  [(0xf90, "Kay Kayng Ke Ko Kol Koc Kwi Kwi Kyun Kul Kum Na Na Na La Na"),
   (0xf91, "Na Na Na Na Nak Nak Nak Nak Nak Nak Nak Nan Nan Nan Nan Nan"),
   (0xf92, "Nan Nam Nam Nam Nam Nap Nap Nap Nang Nang Nang Nang Nang Nay Nayng No"),
   (0xf93, "No No No No No No No No No No No Nok Nok Nok Nok Nok"),
   (0xf94, "Nok Non Nong Nong Nong Nong Noy Noy Noy Noy Nwu Nwu Nwu Nwu Nwu Nwu"),
   (0xf95, "Nwu Nwu Nuk Nuk Num Nung Nung Nung Nung Nung Twu La Lak Lak Lan Lyeng"),
   (0xf96, "Lo Lyul Li Pey Pen Pyen Pwu Pwul Pi Sak Sak Sam Sayk Sayng Sep Sey"),
   (0xf97, "Sway Sin Sim Sip Ya Yak Yak Yang Yang Yang Yang Yang Yang Yang Yang Ye"),
   (0xf98, "Ye Ye Ye Ye Ye Ye Ye Ye Ye Ye Yek Yek Yek Yek Yen Yen"),
   (0xf99, "Yen Yen Yen Yen Yen Yen Yen Yen Yen Yen Yen Yen Yel Yel Yel Yel"),
   (0xf9a, "Yel Yel Yem Yem Yem Yem Yem Yep Yeng Yeng Yeng Yeng Yeng Yeng Yeng Yeng"),
   (0xf9b, "Yeng Yeng Yeng Yeng Yeng Yey Yey Yey Yey O Yo Yo Yo Yo Yo Yo"),
   (0xf9c, "Yo Yo Yo Yo Yong Wun Wen Yu Yu Yu Yu Yu Yu Yu Yu Yu"),
   (0xf9d, "Yu Yuk Yuk Yuk Yun Yun Yun Yun Yul Yul Yul Yul Yung I I I"),
   (0xf9e, "I I I I I I I I I I I Ik Ik In In In"),
   (0xf9f, "In In In In Im Im Im Ip Ip Ip Cang Cek Ci Sip Cha Chek"),
   (0xfa0, "Chey Thak Chak Thang Thayk Thong Pho Phok Hang Hang Hyen Hwak Wu Huo"),
   (0xfa1, "Zhong ? Qing ? ? Xi Zhu Yi Li Shen Xiang Fu Jing Jing Yu"),
   (0xfa2, "Hagi ? Zhu ? ? Yi Du ? ? ? Fan Si Guan he lang li"),
   (0xfa3, "wu seng mian mian qin bei he tan qi ping mo ceng che hui kai zeng"),
   (0xfa4, "cheng min ji shu mei hai zhu han zhu zhao zuo bei she zhi qi you"),
   (0xfa5, "zu zhu huo zhen gu tu jie lian jin fan shu zhe chou cao cao zhu"),
   (0xfa6, "he shi ye jin bin zeng chuo yi nan xiang pin hui ? guan"),
   (0xfa7, "bing kuang quan xing chong ji yong shao he tao hui wa zhong fen yan ben"),
   (0xfa8, "bi ci ao yi cai yao wang shen yu zeng ao cheng dai yu sou bing"),
   (0xfa9, "ao qing lang wang zhang dai sha liu yin zi han jing zhu qiao jue fan"),
   (0xfaa, "zhu tian ci hua guan wen yi sheng zhi juan zhe tian tiao jie lei tao"),
   (0xfab, "lian ping zhe huang hua yun qiang fu shi diao zhu qing ye nuo yu jin"),
   (0xfac, "bian zeng shu chi sou xing zhu nan jing bai xiang e pin zhen gui"),
   (0xfad, "? ? he xie jie ? qian beng e pang")]

end Stencil.Text.Spelling
