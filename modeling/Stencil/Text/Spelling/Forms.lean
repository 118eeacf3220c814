/-!
Spellings of presentation forms and of full and half width forms, in rows of sixteen.
-/
namespace Stencil.Text.Spelling

/-- Rows of spellings under the code point of their first character divided by sixteen. -/
def forms : List (Nat × String) :=
  [(0xfb0, "ff fi fl ffi ffl st st"),
   (0xfb1, "? ? ? mn me mi vn mkh ? ? ? ? ? yi  ay"),
   (0xfb2, "\x60 ' d h k l m m t + sh s sh s a a"),
   (0xfb3, "' b g d h v z ? t y k k l ? l"),
   (0xfb4, "n n ? p p ? ts ts r sh t vo b k p l"),
   (0xfb5, "a a b b b b p p p p bh bh bh bh th th"),
   (0xfb6, "th th th th th th t t t t v v v v ph ph"),
   (0xfb7, "ph ph j j j j n n n n ch ch ch ch chh chh"),
   (0xfb8, "chh chh dh dh dh dh d d d d zh zh r r k k"),
   (0xfb9, "k k g g g g g g g g ng ng ng ng n n"),
   (0xfba, "n n n n h h h h h h h h h h e e"),
   (0xfbb, "e e"),
   (0xfbd, "? ? ? ng ng ng ng u u o o u u u' v v"),
   (0xfbe, "o o u u e e e e a a i'a i'a i'e i'e i'w i'w"),
   (0xfbf, "i'u i'u i'o i'o i'u i'u i'e i'e i'e i'a i'a i'a y y y y"),
   (0xfc0, "i'j i'h i'm i'a i'y bj bh bkh bm ba by tj th tkh tm ta"),
   (0xfc1, "ty thj thm tha thy jh jm hj hm khj khh khm sj sh skh sm"),
   (0xfc2, "sh sm dj dh dkh dm th tm zm 'j 'm ghj ghm fj fh fkh"),
   (0xfc3, "fm fa fy qh qm qa qy ka kj kh kkh kl km ka ky lj"),
   (0xfc4, "lh lkh lm la ly mj mh mkh mm ma my nj nh nkh nm na"),
   (0xfc5, "ny hj hm ha hy yj yh ykh ym ya yy dha ra aa un_ in_"),
   (0xfc6, "a_ u_ i_ a_ i'r i'z i'm i'n i'a i'y br bz bm bn ba by"),
   (0xfc7, "tr tz tm tn ta ty thr thz thm thn tha thy fa fy qa qy"),
   (0xfc8, "ka kl km ka ky lm la ly ma mm nr nz nm nn na ny"),
   (0xfc9, "aa yr yz ym yn ya yy i'j i'h i'kh i'm i'h bj bh bkh bm"),
   (0xfca, "bh tj th tkh tm th thm jh jm hj hm khj khm sj sh skh"),
   (0xfcb, "sm sh skh sm dj dh dkh dm th zm 'j 'm ghj ghm fj fh"),
   (0xfcc, "fkh fm qh qm kj kh kkh kl km lj lh lkh lm lh mj mh"),
   (0xfcd, "mkh mm nj nh nkh nm nh hj hm ha yj yh ykh ym yh i'm"),
   (0xfce, "i'h bm bh tm th thm thh sm sh shm shh kl km lm nm nh"),
   (0xfcf, "ym yh a u i ta ty 'a 'y gha ghy sa sy sha shy ha"),
   (0xfd0, "hy ja jy kha khy sa sy da dy shj shh shkh shm shr sr sr"),
   (0xfd1, "dr ta ty 'a 'y gha ghy sa sy sha shy ha hy ja jy kha"),
   (0xfd2, "khy sa sy da dy shj shh shkh shm shr sr sr dr shj shh shkh"),
   (0xfd3, "shm sh shh tm sj sh skh shj shh shkh tm zm aan aan"),
   (0xfd5, "tjm thj thj thm tkhm tmj tmh tmkh jmh jmh hmy hma shj sjh sja smh"),
   (0xfd6, "smh smj smm smm shh shh smm shhm shhm shjy shmkh shmkh shmm shmm dha dkhm"),
   (0xfd7, "dkhm tmh tmh tmm tmy 'jm 'mm 'mm 'ma ghmm ghmy ghma fkhm fkhm qmh qmm"),
   (0xfd8, "lhm lhy lha ljj ljj lkhm lkhm lmh lmh mhj mhm mhy mjh mjm mkhj mkhm"),
   (0xfd9, "? ? mjkh hmj hmm nhm nha njm njm nja nmy nma ymm ymm bkhy tjy"),
   (0xfda, "tja tkhy tkha tmy tma jmy jha jma skha shy shhy dhy ljy lmy yhy yjy"),
   (0xfdb, "ymy mmy qmy nhy qmh lhm 'my kmy njh mkhy ljm kmm ljm njh jhy hjy"),
   (0xfdc, "mjy fmy bhy kmm 'jm smm skhy njy"),
   (0xfdf, "sly qly allah akbar muhammad salam rasul alayhi wasallam salla slaallh'lyhwslm " ++
     "jljlalh rial"),
   (0xfe0, "               "),
   (0xfe1, ", ,_ ._ : ; ! ? [[ ]]_ ..."),
   (0xfe2, "               "),
   (0xfe3, ".. -- - _ _ ( ) \x7b \x7d [ ]_ [( )]_ << >>_ <"),
   (0xfe4, ">_ [ ]_ \x7b \x7d_ ? ? [ ]     _ _ _"),
   (0xfe5, ", ,_ . ? ; : ? ! -- ( ) \x7b \x7d [ ]_ #"),
   (0xfe6, "& * + - < > = ? \\ $ % @"),
   (0xfe7, "an an un ? in ? a a u u i i    "),
   (0xfe8, "' a a a' a' u' u' i' i' i' i' i' i' a a b"),
   (0xfe9, "b b b h h t t t t th th th th j j j"),
   (0xfea, "j h h h h kh kh kh kh d d dh dh r r z"),
   (0xfeb, "z s s s s sh sh sh sh s s s s d d d"),
   (0xfec, "d t t t t z z z z ' ' ' ' gh gh gh"),
   (0xfed, "gh f f f f q q q q k k k k l l l"),
   (0xfee, "l m m m m n n n n h h h h w w a"),
   (0xfef, "a y y y y la la la' la' li' li' la la ? ? "),
   (0xff0, "? ! \" # $ % & ' ( ) * + , - . /"),
   (0xff1, "0 1 2 3 4 5 6 7 8 9 : ; < = >"),
   (0xff2, "@ A B C D E F G H I J K L M N O"),
   (0xff3, "P Q R S T U V W X Y Z [ \\ ] ^ _"),
   (0xff4, "\x60 a b c d e f g h i j k l m n o"),
   (0xff5, "p q r s t u v w x y z \x7b | \x7d ~"),
   (0xff6, "? . [ ] , * wo a i u e o ya yu yo tu"),
   (0xff7, "+ a i u e o ka ki ku ke ko sa si su se so"),
   (0xff8, "ta ti tu te to na ni nu ne no ha hi hu he ho ma"),
   (0xff9, "mi mu me mo ya yu yo ra ri ru re ro wa n : ;"),
   (0xffa, " g gg gs n nj nh d dd r lg lm lb ls lt lp"),
   (0xffb, "rh m b bb bs s ss  j jj c k t p h"),
   (0xffc, "? ? a ae ya yae eo e ? ? yeo ye o wa wae oe"),
   (0xffd, "? ? yo u weo we wi yu ? ? eu yi i"),
   (0xffe, "/C PS ! - | Y= W= ? | - | - | # O")]

end Stencil.Text.Spelling
