/-!
Spellings of punctuation, marks, signs and of the scripts between U+2000 and U+2E7F, in rows of
sixteen.
-/
namespace Stencil.Text.Spelling

/-- Rows of spellings under the code point of their first character divided by sixteen. -/
def symbols : List (Nat × String) :=
  [(0x200, "_ _ _ _ _ _ _ _ _ _ _ _    "),
   (0x201, "- - - - -- -- || _ ' ' , ' \" \" ,, \""),
   (0x202, "+ ++ * *> . .. ... . _ _      _"),
   (0x203, "%0 %00 ' '' ''' ? ? ? ? < > * !! ? "),
   (0x204, "? ? ? ? / ? ? ?? ?! !?"),
   (0x205, "? ? ? ? ? ? ? '''' ? ? ? ? ? ? ? _"),
   (0x206, "               "),
   (0x207, "0 i ? ? 4 5 6 7 8 9 + - = ( ) n"),
   (0x208, "0 1 2 3 4 5 6 7 8 9 + - = ( )"),
   (0x209, "a e o x e h k l m n p s t"),
   (0x20a, "ECU CL Cr FF L mil N Pts Rs W NS D EUR K T Dr"),
   (0x20b, "pf P G A Hrn C lt Sm T Rs TL M m Rb L BTC"),
   (0x20c, "S"),
   (0x20d, "               "),
   (0x20e, "               "),
   (0x20f, ""),
   (0x210, "a/c a/s C degC CL c/o c/u E ? degF g H H H h h"),
   (0x211, "I I L l lb N No (p) P P Q R R R Rx"),
   (0x212, "(sm) TEL tm V Z oz Z mho Z i K A B C est. e"),
   (0x213, "E F F M o A b g d i Q FAX p g G P"),
   (0x214, "S G L L Y D d e i j PL & P A/S f f"),
   (0x215, "1/7 1/9 1/10 1/3 2/3 1/5 2/5 3/5 4/5 1/6 5/6 1/8 3/8 5/8 7/8 1/"),
   (0x216, "I II III IV V VI VII VIII IX X XI XII L C D M"),
   (0x217, "i ii iii iv v vi vii viii ix x xi xii l c d m"),
   (0x218, "? ? ? ? c 6 50 50000 100000 0/3 10 11"),
   (0x220, "V C d E !E 0 D d e !e e e !e e # P"),
   (0x221, "P S - ? ? ? ? ? o ? sqrt cbrt 4rt oc inf L"),
   (0x222, "? ? ? ? ? ? !|| ? v ? v S SS SSS S SS"),
   (0x223, "SSS S S S"),
   (0x226, "= ? ? ? ? ? ? ? ? ? ? ? ? ? < >"),
   (0x228, "? ? ? ? ? ? ? ? ? ? ? ? v v v"),
   (0x229, "? ? ? ? ? ? ? x"),
   (0x22a, "x ? |- ? T T ? ? ? ? ? ? |-"),
   (0x22b, "? ? ? ? ? ? ? ? ? ? ? v ? v"),
   (0x22c, "? v ? v ? ? ? ? ? x x x x ? v"),
   (0x22d, "? ? ? v"),
   (0x231, "? ? ? ? ? ? ? ? ? ? watch_ hourglass_"),
   (0x232, "? ? ? ? ? ? ? ? keyboard_ < >_"),
   (0x237, "? ? ? ? ? ? ? ? ? ? ? v"),
   (0x23c, "? ? ? ? ? ? ? ? ? ? ? ? ? ? ? eject_symbol_"),
   (0x23e, "? ? ? ? ? ? ? ? ? fast_forward_ rewind_ arrow_double_up_ arrow_double_down_ " ++
     "black_right__pointing_double_triangle_with_vertical_bar_ " ++
     "black_left__pointing_double_triangle_with_vertical_bar_ " ++
     "black_right__pointing_triangle_with_double_vertical_bar_"),
   (0x23f, "alarm_clock_ stopwatch_ timer_clock_ hourglass_flowing_sand_ ? ? ? ? " ++
     "double_vertical_bar_ black_square_for_stop_ black_circle_for_record_"),
   (0x240, "NUL SOH STX ETX EOT ENQ ACK BEL BS HT LF VT FF CR SO SI"),
   (0x241, "DLE DC1 DC2 DC3 DC4 NAK SYN ETB CAN EM SUB ESC FS GS RS US"),
   (0x242, "SP DEL b _ NL ///"),
   (0x246, "1 2 3 4 5 6 7 8 9 10 11 12 13 14 15 16"),
   (0x247, "17 18 19 20 (1) (2) (3) (4) (5) (6) (7) (8) (9) (10) (11) (12)"),
   (0x248, "(13) (14) (15) (16) (17) (18) (19) (20) 1. 2. 3. 4. 5. 6. 7. 8."),
   (0x249, "9. 10. 11. 12. 13. 14. 15. 16. 17. 18. 19. 20. (a) (b) (c) (d)"),
   (0x24a, "(e) (f) (g) (h) (i) (j) (k) (l) (m) (n) (o) (p) (q) (r) (s) (t)"),
   (0x24b, "(u) (v) (w) (x) (y) (z) A B C D E F G H I J"),
   (0x24c, "K L M N O P Q R S T U V W X Y Z"),
   (0x24d, "a b c d e f g h i j k l m n o p"),
   (0x24e, "q r s t u v w x y z 0 11 12 13 14 15"),
   (0x24f, "16 17 18 19 20 1 2 3 4 5 6 7 8 9 10 0"),
   (0x25b, "? ? ? ? ? ? ? ? ? ? ? ? v v v v"),
   (0x260, "* cloud_ umbrella_ snowman_ comet_ ? ? lightning_ thunderstorm_ sun_ " ++
     "ascending_node_ descending_node_ conjunction_ opposition_ phone_ white_telephone_"),
   (0x261, "[_] [v] [x] x umbrella_ coffee_ white_shogi_piece_ black_shogi_piece_ shamrock_ " ++
     "reversed_rotated_floral_heart_bullet_ black_left_pointing_index_ " ++
     "black_right_pointing_index_ white_left_pointing_index_ point_up_ " ++
     "white_right_pointing_index_ white_down_pointing_index_"),
   (0x262, "skull_and_crossbones_ caution_ radioactive_sign_ biohazard_sign_ caduceus_ ankh_ " ++
     "orthodox_cross_ chi_rho_ ? ? star_and_crescent_ farsi_ adi_shakti_ hammer_sickle_ " ++
     "peace_symbol_ yin_yang_"),
   (0x263, "heaven_ lake_ fire_ thunder_ wind_ water_ mountain_ earth_ wheel_of_dharma_ " ++
     "frowning_face_ relaxed_ black_smiling_face_ white_sun_with_rays_ first_quarter_moon_ " ++
     "last_quarter_moon_ mercury_"),
   (0x264, "female_sign_ earth_ male_sign_ jupiter_ saturn_ uranus_ neptune_ pluto_ aries_ " ++
     "taurus_ gemini_ cancer_ leo_ virgo_ libra_ scorpius_"),
   (0x265, "sagittarius_ capricorn_ aquarius_ pisces_ white_king_ Q R B N P black_king_ Q R B " ++
     "N P"),
   (0x266, "spades_ white_heart_ white_diamond_ clubs_ white_spade_ hearts_ diamonds_ " ++
     "white_club_ hotsprings_ * * * * b music_natural_ music_sharp_"),
   (0x267, "? ? universal_recycling_ recycling_type_1_plastics_ recycling_type_2_plastics_ " ++
     "recycling_type_3_plastics_ recycling_type_4_plastics_ recycling_type_5_plastics_ " ++
     "recycling_type_6_plastics_ recycling_type_7_plastics_ recycling_generic_materials_ " ++
     "recycle_ recycled_paper_ partially_recycled_paper_ permanent_paper_ wheelchair_"),
   (0x268, "1 2 3 4 5 6 white_circle_with_dot_right_ white_circle_with_two_dots_ " ++
     "black_circle_with_white_dot_right_ black_circle_with_two_white_dots_"),
   (0x269, "white_flag_ black_flag_ hammer_and_pick_ anchor_ crossed_swords_ medical_symbol_ " ++
     "balance_scale_ alembic_ flower_ gear_ staff_of_hermes_ atom_symbol_ fleur__de__lis_ ? " ++
     "three_lines_converging_right_ three_lines_converging_left_"),
   (0x26a, "warning_ zap_ doubled_female_ doubled_male_ interlocked_female_male_ male_female_ " ++
     "male_with_stroke_ transgender_symbol_ vertical_male_with_stroke_ " ++
     "horizontal_male_with_stroke_ white_circle_ black_circle_ medium_small_white_circle_ " ++
     "marriage_ divorce_ unmarried_partnership_"),
   (0x26b, "coffin_ funeral_urn_ neuter_ ceres_ pallas_ juno_ vesta_ chiron_ " ++
     "black_moon_lilith_ sextile_ semisextile_ quincunx_ sesquiquadrate_ soccer_ baseball_ " ++
     "squared_key_"),
   (0x26c, "? ? ? ? snowman_ partly_sunny_ rain_ black_snowman_ cloud_with_lightning_and_rain_ " ++
     "turned_white_shogi_piece_ turned_black_shogi_piece_ white_diamond_in_square_ X " ++
     "disabled_car_ ophiuchus_ pick_"),
   (0x26d, "car_sliding_ rescue_worker_helmet_ circled_crossing_lanes_ chains_ no_entry_ " ++
     "alternate_one_way_left_way_traffic_ black_two_way_left_way_traffic_ " ++
     "white_two_way_left_way_traffic_ black_left_lane_merge_ white_left_lane_merge_ " ++
     "drive_slow_ heavy_white_down_pointing_triangle_ left_closed_entry_ squared_saltire_ ? " ++
     "black_truck_"),
   (0x26e, "restricted_left_entry_1_ restricted_left_entry_2_ astronomical_uranus_ " ++
     "heavy_circle_with_stroke_two_dots_above_ pentagram_ right_handed_interlaced_pentagram_ " ++
     "left_handed_interlaced_pentagram_ inverted_pentagram_ ? shinto_shrine_ church_ castle_ " ++
     "historic_site_ gear_without_hub_ gear_with_handles_ map_lighthouse_"),
   (0x26f, "mountain_ parasol_on_ground_ fountain_ golf_ ferry_ boat_ square_four_corners_ " ++
     "skier_ ice_skate_ bouncing_ball_person_ tent_ japanese_bank_ headstone_graveyard_ " ++
     "fuelpump_ ? white_flag_with_horizontal_middle_black_stripe_"),
   (0x270, "black_safety_scissors_ scissors_ scissors_ scissors_ scissors_ white_check_mark_ " ++
     "telephone_location_ tape_drive_ airplane_ email_ fist_ hand_ v_ writing_hand_ " ++
     "lower_right_pencil_ pencil2_"),
   (0x271, "upper_right_pencil_ white_nib_ black_nib_ v v x x x x ? ? ? ? latin_cross_"),
   (0x272, "? star_of_david_ ? ? ? ? ? ? sparkles_"),
   (0x274, "? ? ? ? snowflake_ tight_trifoliate_snowflake_ heavy_chevron_snowflake_ sparkle_ " ++
     "heavy_sparkle_ ? ? ? x_ shadowed_white_circle_ negative_squared_cross_mark_"),
   (0x275, "? ? ? ? ? ? black_diamond_minus_white_x_ heavy_exclamation_mark_ " ++
     "light_vertical_bar_ medium_vertical_bar_ heavy_vertical_bar_"),
   (0x276, "? ? ? heart_exclamation_ heart_ rotated_heavy_black_heart_bullet_ floral_heart_ " ++
     "rotated_floral_heart_bullet_"),
   (0x277, "? ? ? ? ? ? 1 2 3 4 5 6 7 8 9 10"),
   (0x278, "1 2 3 4 5 6 7 8 9 10 1 2 3 4 5 6"),
   (0x279, "7 8 9 10 ? heavy_plus_ heavy_minus_ heavy_division_"),
   (0x27b, "curly_loop_ ? ? ? ? ? ? ? ? ? ? ? ? ? ? loop_"),
   (0x27f, "? v"),
   (0x280, "_ a 1 b ' k 2 l @ c i f / m s p"),
   (0x281, "\" e 3 h 9 o 6 r ^ d j g > n t q"),
   (0x282, ", * 5 < - u 8 v . % [ $ + x ! &"),
   (0x283, "; : 4 \\ 0 z 7 ( _ ? w ] # y ) ="),
   (0x284, "d7 A d27 B d37 K d237 L d47 C I F d347 M S P"),
   (0x285, "d57 E d257 H d357 O d2357 R d457 D J G d3457 N T Q"),
   (0x286, "d67 d167 d267 d1267 d367 U d2367 V d467 d1467 d2467 d12467 d3467 X d23467 d123467"),
   (0x287, "d567 d1567 d2567 d12567 d3567 Z d23567 d123567 d4567 d14567 W d124567 d34567 Y " ++
     "d234567 d1234567"),
   (0x288, "d8 d18 d28 d128 d38 d138 d238 d1238 d48 d148 d248 d1248 d348 d1348 d2348 d12348"),
   (0x289, "d58 d158 d258 d1258 d358 d1358 d2358 d12358 d458 d1458 d2458 d12458 d3458 d13458 " ++
     "d23458 d123458"),
   (0x28a, "d68 d168 d268 d1268 d368 d1368 d2368 d12368 d468 d1468 d2468 d12468 d3468 d13468 " ++
     "d23468 d123468"),
   (0x28b, "d568 d1568 d2568 d12568 d3568 d13568 d23568 d123568 d4568 d14568 d24568 d124568 " ++
     "d34568 d134568 d234568 d1234568"),
   (0x28c, "d78 d178 d278 d1278 d378 d1378 d2378 d12378 d478 d1478 d2478 d12478 d3478 d13478 " ++
     "d23478 d123478"),
   (0x28d, "d578 d1578 d2578 d12578 d3578 d13578 d23578 d123578 d4578 d14578 d24578 d124578 " ++
     "d34578 d134578 d234578 d1234578"),
   (0x28e, "d678 d1678 d2678 d12678 d3678 d13678 d23678 d123678 d4678 d14678 d24678 d124678 " ++
     "d34678 d134678 d234678 d1234678"),
   (0x28f, "d5678 d15678 d25678 d125678 d35678 d135678 d235678 d1235678 d45678 d145678 d245678 " ++
     "d1245678 d345678 d1345678 d2345678 d12345678"),
   (0x290, "? ? ? ? ? ? ? ? v ? ? v"),
   (0x291, "? ? ? v"),
   (0x292, "? ? ? ? ? ? ? ? ? ? ? x x x x x"),
   (0x293, "x x x ? arrow_heading_up_ arrow_heading_down_"),
   (0x297, "? ? ? ? ? ? ? ? ? ? ? ? ? ? ? v"),
   (0x29b, "0 0 0 0 0"),
   (0x2a0, "? ? x v v ? v ? v x S S SSSS S S S"),
   (0x2a1, "S S S S S S S S S S S S S"),
   (0x2a2, "? ? ? ? ? ? ? ? ? ? ? ? ? ? ? x"),
   (0x2a3, "x x ? x x x x x ? ? ? x"),
   (0x2a4, "? v v ? ? v v v v v v ? v ? ? v"),
   (0x2a5, "v ? v ? v ? v ? ? x ? v ? v"),
   (0x2a6, "? ? v v"),
   (0x2a7, "? ? ? ? ::= == ==="),
   (0x2ac, "? x x"),
   (0x2b0, "? ? ? ? ? ? ? v"),
   (0x2b4, "? ? ? ? ? ? ? ? ? ? ? ? ? v"),
   (0x2b5, "star_ ? ? ? ? o_ ? ? ? ? ? ? ? ? v v"),
   (0x2b6, "? ? ? v ? ? ? ? ? ? ? ? ? v"),
   (0x2b7, "? ? ? v ? ? ? ? ? ? ? ? ? v"),
   (0x2b8, "? ? ? ? ? ? ? v ? ? ? v"),
   (0x2b9, "? ? ? ? ? ? ? ? ? ? ? ? ? ? ? v"),
   (0x2bb, "? ? ? ? ? ? ? ? ? ? ? ? ? x x x"),
   (0x2bc, "? ? ? ? ? ? v"),
   (0x2be, "? ? ? ? ? ? ? ? ? ? ? ? ? ? ? v"),
   (0x2c0, "a b v g d e zh dz z i i i dj k l m"),
   (0x2c1, "n o p r s t u f kh o p sht ts ch sh '"),
   (0x2c2, "' ye kh ju e e jo je o jo f i ' a m ch"),
   (0x2c3, "a b v g d e zh dz z i i i dj k l m"),
   (0x2c4, "n o p r s t u f kh o p sht ts ch sh '"),
   (0x2c5, "' ye kh ju e e jo je o jo f i ' a m ch"),
   (0x2c6, "l l l p r a t h h k k z z a m a"),
   (0x2c7, "a v w w v h h ph e r o e j v s z"),
   (0x2c8, "a a b b g g d d e e s s z z e e"),
   (0x2c9, "th th i i k k l l m m n n ks ks o o"),
   (0x2ca, "p p r r s s t t u u ph ph kh kh ps ps"),
   (0x2cb, "o o ' ' ' ' e e k k n n n n o o"),
   (0x2cc, "ss ss sh sh sh sh sh sh kh kh h h h h h h"),
   (0x2cd, "h h h h h h j j j j c c c c ng ng"),
   (0x2ce, "ny ny w w ? ? ? ? ? ? ? sh sh j j"),
   (0x2cf, "? ? kh kh ? ? ? ? ? ? ? ? ? 1/2"),
   (0x2d0, "a b g d e v z t i k' l m n o p' zh"),
   (0x2d1, "r s t' u p k gh q' sh ch ts dz ts' ch' kh j"),
   (0x2d2, "h ey y w q o ? y ? ? ? ? ? e"),
   (0x2d3, "a b bh g gh j j d dh d dh e f k k kh"),
   (0x2d4, "h h h h ' kh kh q q i zh zh zh l m n"),
   (0x2d5, "ny ng p u r r gh gh gh s s sh t th ch t"),
   (0x2d6, "v w y z z z e o ? ? ? ? ? ? ? '"),
   (0x2d7, "? ? ? ? ? ? ? ? ? ? ? ? ? ? ? "),
   (0x2d8, "loa moa roa soa shoa boa toa choa noa nyoa 'oa zoa doa doa joa t'oa"),
   (0x2d9, "ch'oa p'oa poa gwe gwi gwe gwi"),
   (0x2da, "se su si sa se si so ? che chu chi cha che chi cho"),
   (0x2db, "zhe zhu zhi zha zhe zhi zho ? ch'e ch'u ch'i ch'a ch'e ch'i ch'o"),
   (0x2dc, "qye qyu qyi qya qye qyi qyo ? kye kyu kyi kya kye kyi kyo"),
   (0x2dd, "xye xyu xyi xya xye xyi xyo ? gye gyu gyi gya gye gyi gyo"),
   (0x2de, "b v g d zh z k l m n o p r s t kh"),
   (0x2df, "ts ch sh shch f st a e dj u ye yu ya e o yo")]

end Stencil.Text.Spelling
