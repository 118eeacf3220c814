/-!
Names of pictures and of tiles, cards and enclosed letters from U+1F000, in rows of sixteen.
-/
namespace Stencil.Text.Spelling

/-- Rows of names under the code point of their first character divided by sixteen. -/
def pictures : List (Nat × String) :=
  [(0x1f00, "E S W N R G W 1m 2m 3m 4m 5m 6m 7m 8m 9m"),
   (0x1f01, "1s 2s 3s 4s 5s 6s 7s 8s 9s 1p 2p 3p 4p 5p 6p 7p"),
   (0x1f02, "8p 9p"),
   (0x1f03, " 00 01 02 03 04 05 06 10 11 12 13 14 15 16 20"),
   (0x1f04, "21 22 23 24 25 26 30 31 32 33 34 35 36 40 41 42"),
   (0x1f05, "43 44 45 46 50 51 52 53 54 55 56 60 61 62 63 64"),
   (0x1f06, "65 66  00 01 02 03 04 05 06 10 11 12 13 14 15"),
   (0x1f07, "16 20 21 22 23 24 25 26 30 31 32 33 34 35 36 40"),
   (0x1f08, "41 42 43 44 45 46 50 51 52 53 54 55 56 60 61 62"),
   (0x1f09, "63 64 65 66"),
   (0x1f0a, "? AS 2S 3S 4S 5S 6S 7S 8S 9S TS JS CS QS KS"),
   (0x1f0b, "? AH 2H 3H 4H 5H 6H 7H 8H 9H TH JH CH QH KH"),
   (0x1f0c, "? AD 2D 3D 4D 5D 6D 7D 8D 9D TD JD CD QD KD joker_"),
   (0x1f0d, "? AC 2C 3C 4C 5C 6C 7C 8C 9C TC JC CC QC KC"),
   (0x1f0e, "0 1 2 3 4 5 6 7 8 9 10 11 12 13 14 15"),
   (0x1f0f, "16 17 18 19 20 21"),
   (0x1f10, "0. 0, 1, 2, 3, 4, 5, 6, 7, 8, 9, 0 0"),
   (0x1f11, "(A) (B) (C) (D) (E) (F) (G) (H) (I) (J) (K) (L) (M) (N) (O) (P)"),
   (0x1f12, "(Q) (R) (S) (T) (U) (V) (W) (X) (Y) (Z) [S] (C) (R) CD WZ"),
   (0x1f13, "A B C D E F G H I J K L M N O P"),
   (0x1f14, "Q R S T U V W X Y Z HV MV SD SS PPV WC"),
   (0x1f15, "A B C D E F G H I J K L M N O P"),
   (0x1f16, "Q R S T U V W X Y Z MC MD MR"),
   (0x1f17, "A B C D E F G H I J K L M N O P"),
   (0x1f18, "Q R S T U V W X Y Z P IC PA SA AB WC"),
   (0x1f19, "DJ CL COOL FREE ID NEW NG OK SOS UP! VS 3D 2ndScr 2K 4K 8K"),
   (0x1f1a, "5.1 7.1 22.2 60P 120P d HC HDR Hi-Res Lossless SHV UHD VOD M"),
   (0x1f1e, "? ? ? ? ? ? A B C D E F G H I J"),
   (0x1f1f, "K L M N O P Q R S T U V W X Y Z"),
   (0x1f20, "hoka koko sa"),
   (0x1f21, "shou zi shuang de er duo jie tian jiao ying wu liao qian hou zai xin"),
   (0x1f22, "chu zhong sheng fan sheng chui yan tou bu yi san you zuo zhong you zhi"),
   (0x1f23, "zou da jin kong he man you yue shen ge ying pei"),
   (0x1f24, "[ben]_ [san]_ [er]_ [an]_ [dian]_ [da]_ [dao]_ [sheng]_ [bai]_"),
   (0x1f25, "de ke"),
   (0x1f30, "cyclone_ foggy_ closed_umbrella_ night_with_stars_ sunrise_over_mountains_ " ++
     "sunrise_ city_sunset_ city_sunrise_ rainbow_ bridge_at_night_ ocean_ volcano_ milky_way_ " ++
     "earth_africa_ earth_americas_ earth_asia_"),
   (0x1f31, "globe_with_meridians_ new_moon_ waxing_crescent_moon_ first_quarter_moon_ moon_ " ++
     "full_moon_ waning_gibbous_moon_ last_quarter_moon_ waning_crescent_moon_ crescent_moon_ " ++
     "new_moon_with_face_ first_quarter_moon_with_face_ last_quarter_moon_with_face_ " ++
     "full_moon_with_face_ sun_with_face_ star2_"),
   (0x1f32, "stars_ thermometer_ black_droplet_ white_sun_ sun_behind_small_cloud_ " ++
     "sun_behind_large_cloud_ sun_behind_rain_cloud_ cloud_with_rain_ cloud_with_snow_ " ++
     "cloud_with_lightning_ tornado_ fog_ wind_face_ hotdog_ taco_ burrito_"),
   (0x1f33, "chestnut_ seedling_ evergreen_tree_ deciduous_tree_ palm_tree_ cactus_ " ++
     "hot_pepper_ tulip_ cherry_blossom_ rose_ hibiscus_ sunflower_ blossom_ corn_ " ++
     "ear_of_rice_ herb_"),
   (0x1f34, "four_leaf_clover_ maple_leaf_ fallen_leaf_ leaves_ mushroom_ tomato_ eggplant_ " ++
     "grapes_ melon_ watermelon_ tangerine_ lemon_ banana_ pineapple_ apple_ green_apple_"),
   (0x1f35, "pear_ peach_ cherries_ strawberry_ hamburger_ pizza_ meat_on_bone_ poultry_leg_ " ++
     "rice_cracker_ rice_ball_ rice_ curry_ ramen_ spaghetti_ bread_ fries_"),
   (0x1f36, "sweet_potato_ dango_ oden_ sushi_ fried_shrimp_ fish_cake_ icecream_ shaved_ice_ " ++
     "ice_cream_ doughnut_ cookie_ chocolate_bar_ candy_ lollipop_ custard_ honey_pot_"),
   (0x1f37, "cake_ bento_ stew_ fried_egg_ fork_and_knife_ tea_ sake_ wine_glass_ cocktail_ " ++
     "tropical_drink_ beer_ beers_ baby_bottle_ plate_with_cutlery_ champagne_ popcorn_"),
   (0x1f38, "ribbon_ gift_ birthday_ jack_o_lantern_ christmas_tree_ santa_ fireworks_ " ++
     "sparkler_ balloon_ tada_ confetti_ball_ tanabata_tree_ crossed_flags_ bamboo_ dolls_ " ++
     "flags_"),
   (0x1f39, "wind_chime_ rice_scene_ school_satchel_ mortar_board_ heart_with_tip_on_left_ " ++
     "bouquet_of_flowers_ medal_military_ reminder_ribbon_ musical_keyboard_with_jacks_ " ++
     "studio_microphone_ level_slider_ control_knobs_ beamed_ascending_musical_notes_ " ++
     "beamed_descending_musical_notes_ film_strip_ tickets_"),
   (0x1f3a, "carousel_horse_ ferris_wheel_ roller_coaster_ fishing_pole_and_fish_ microphone_ " ++
     "movie_camera_ cinema_ headphones_ art_ tophat_ circus_tent_ ticket_ clapper_ " ++
     "performing_arts_ video_game_ dart_"),
   (0x1f3b, "slot_machine_ 8ball_ game_die_ bowling_ flower_playing_cards_ musical_note_ " ++
     "notes_ saxophone_ guitar_ musical_keyboard_ trumpet_ violin_ musical_score_ " ++
     "running_shirt_with_sash_ tennis_ ski_"),
   (0x1f3c, "basketball_ checkered_flag_ snowboarder_ running_ surfer_ medal_sports_ trophy_ " ++
     "horse_racing_ football_ rugby_football_ swimmer_ weight_lifting_ golfing_ motorcycle_ " ++
     "racing_car_ cricket_game_"),
   (0x1f3d, "volleyball_ field_hockey_ ice_hockey_ ping_pong_ mountain_snow_ camping_ " ++
     "beach_umbrella_ building_construction_ houses_ cityscape_ derelict_house_ " ++
     "classical_building_ desert_ desert_island_ national_park_ stadium_"),
   (0x1f3e, "house_ house_with_garden_ office_ post_office_ european_post_office_ hospital_ " ++
     "bank_ atm_ hotel_ love_hotel_ convenience_store_ school_ department_store_ factory_ " ++
     "izakaya_lantern_ japanese_castle_"),
   (0x1f3f, "european_castle_ white_pennant_ black_pennant_ flag_white_ flag_black_ rosette_ " ++
     "black_rosette_ label_ badminton_ bow_and_arrow_ amphora_     "),
   (0x1f40, "rat_ mouse2_ ox_ water_buffalo_ cow2_ tiger2_ leopard_ rabbit2_ cat2_ dragon_ " ++
     "crocodile_ whale2_ snail_ snake_ racehorse_ ram_"),
   (0x1f41, "goat_ sheep_ monkey_ rooster_ chicken_ dog2_ pig2_ boar_ elephant_ octopus_ " ++
     "shell_ bug_ ant_ bee_ lady_beetle_ fish_"),
   (0x1f42, "tropical_fish_ blowfish_ turtle_ hatching_chick_ baby_chick_ hatched_chick_ bird_ " ++
     "penguin_ koala_ poodle_ dromedary_camel_ camel_ dolphin_ mouse_ cow_ tiger_"),
   (0x1f43, "rabbit_ cat_ dragon_face_ whale_ horse_ monkey_face_ dog_ pig_ frog_ hamster_ " ++
     "wolf_ bear_ panda_face_ pig_nose_ feet_ chipmunk_"),
   (0x1f44, "eyes_ eye_ ear_ nose_ lips_ tongue_ point_up_2_ point_down_ point_left_ " ++
     "point_right_ fist_oncoming_ wave_ ok_hand_ thumbsup_ thumbsdown_ clap_"),
   (0x1f45, "open_hands_ crown_ womans_hat_ eyeglasses_ necktie_ shirt_ jeans_ dress_ kimono_ " ++
     "bikini_ womans_clothes_ purse_ handbag_ pouch_ mans_shoe_ athletic_shoe_"),
   (0x1f46, "high_heel_ sandal_ boot_ footprints_ bust_in_silhouette_ busts_in_silhouette_ " ++
     "boy_ girl_ man_ woman_ family_ couple_ two_men_holding_hands_ two_women_holding_hands_ " ++
     "police_officer_ dancers_"),
   (0x1f47, "person_with_veil_ blond_haired_person_ man_with_gua_pi_mao_ person_with_turban_ " ++
     "older_man_ older_woman_ baby_ construction_worker_ princess_ japanese_ogre_ " ++
     "japanese_goblin_ ghost_ angel_ alien_ space_invader_ imp_"),
   (0x1f48, "skull_ tipping_hand_person_ guard_ woman_dancing_ lipstick_ nail_care_ massage_ " ++
     "haircut_ barber_ syringe_ pill_ kiss_ love_letter_ ring_ gem_ couplekiss_"),
   (0x1f49, "bouquet_ couple_with_heart_ wedding_ heartbeat_ broken_heart_ two_hearts_ " ++
     "sparkling_heart_ heartpulse_ cupid_ blue_heart_ green_heart_ yellow_heart_ purple_heart_ " ++
     "gift_heart_ revolving_hearts_ heart_decoration_"),
   (0x1f4a, "diamond_shape_with_a_dot_inside_ bulb_ anger_ bomb_ zzz_ boom_ sweat_drops_ " ++
     "droplet_ dash_ hankey_ muscle_ dizzy_ speech_balloon_ thought_balloon_ white_flower_ " ++
     "100_"),
   (0x1f4b, "moneybag_ currency_exchange_ heavy_dollar_sign_ credit_card_ yen_ dollar_ euro_ " ++
     "pound_ money_with_wings_ chart_ seat_ computer_ briefcase_ minidisc_ floppy_disk_ cd_"),
   (0x1f4c, "dvd_ file_folder_ open_file_folder_ page_with_curl_ page_facing_up_ date_ " ++
     "calendar_ card_index_ chart_with_upwards_trend_ chart_with_downwards_trend_ bar_chart_ " ++
     "clipboard_ pushpin_ round_pushpin_ paperclip_ straight_ruler_"),
   (0x1f4d, "triangular_ruler_ bookmark_tabs_ ledger_ notebook_ " ++
     "notebook_with_decorative_cover_ closed_book_ book_ green_book_ blue_book_ orange_book_ " ++
     "books_ name_badge_ scroll_ memo_ telephone_receiver_ pager_"),
   (0x1f4e, "fax_ satellite_ loudspeaker_ mega_ outbox_tray_ inbox_tray_ package_ e_mail_ " ++
     "incoming_envelope_ envelope_with_arrow_ mailbox_closed_ mailbox_ mailbox_with_mail_ " ++
     "mailbox_with_no_mail_ postbox_ postal_horn_"),
   (0x1f4f, "newspaper_ iphone_ calling_ vibration_mode_ mobile_phone_off_ no_mobile_phones_ " ++
     "signal_strength_ camera_ camera_flash_ video_camera_ tv_ radio_ vhs_ film_projector_ " ++
     "portable_stereo_ prayer_beads_"),
   (0x1f50, "twisted_rightwards_arrows_ repeat_ repeat_one_ arrows_clockwise_ " ++
     "arrows_counterclockwise_ low_brightness_ high_brightness_ mute_ speaker_ sound_ " ++
     "loud_sound_ battery_ electric_plug_ mag_ mag_right_ lock_with_ink_pen_"),
   (0x1f51, "closed_lock_with_key_ key_ lock_ unlock_ bell_ no_bell_ bookmark_ link_ " ++
     "radio_button_ back_ end_ on_ soon_ top_ underage_ 10_"),
   (0x1f52, "ABCD_ abcd_ 1234_ symbols_ abc_ fire_ flashlight_ wrench_ hammer_ nut_and_bolt_ " ++
     "hocho_ gun_ microscope_ telescope_ crystal_ball_ six_pointed_star_"),
   (0x1f53, "beginner_ trident_ black_square_button_ white_square_button_ red_circle_ " ++
     "blue_circle_ large_orange_diamond_ large_blue_diamond_ small_orange_diamond_ " ++
     "small_blue_diamond_ small_red_triangle_ small_red_triangle_down_ arrow_up_small_ " ++
     "arrow_down_small_ lower_right_shadowed_white_circle_ upper_right_shadowed_white_circle_"),
   (0x1f54, "? ? ? notched_left_semicircle_with_three_dots_ " ++
     "notched_right_semicircle_with_three_dots_ M ? ? ? om_ dove_ kaaba_ mosque_ synagogue_ " ++
     "menorah_ bowl_of_hygieia_"),
   (0x1f55, "clock1_ clock2_ clock3_ clock4_ clock5_ clock6_ clock7_ clock8_ clock9_ clock10_ " ++
     "clock11_ clock12_ clock130_ clock230_ clock330_ clock430_"),
   (0x1f56, "clock530_ clock630_ clock730_ clock830_ clock930_ clock1030_ clock1130_ " ++
     "clock1230_ right_speaker_ right_speaker_with_one_sound_wave_ " ++
     "right_speaker_with_three_sound_waves_ bullhorn_ bullhorn_with_sound_waves_ ringing_bell_ " ++
     "book_ candle_"),
   (0x1f57, "mantelpiece_clock_ black_skull_crossbones_ no_piracy_ hole_ " ++
     "business_suit_levitating_ detective_ dark_sunglasses_ spider_ spider_web_ joystick_ " ++
     "man_dancing_ left_hand_telephone_receiver_ telephone_receiver_with_page_ " ++
     "right_hand_telephone_receiver_ white_touchtone_telephone_ black_touchtone_telephone_"),
   (0x1f58, "telephone_on_top_of_modem_ clamshell_mobile_phone_ back_of_envelope_ " ++
     "stamped_envelope_ envelope_with_lightning_ flying_envelope_ pen_over_stamped_envelope_ " ++
     "paperclips_ black_pushpin_ lower_left_pencil_ pen_ fountain_pen_ paintbrush_ crayon_ " ++
     "left_writing_hand_ turned_ok_hand_"),
   (0x1f59, "raised_hand_with_fingers_splayed_ reversed_raised_hand_with_fingers_splayed_ " ++
     "reversed_thumbs_up_ v reversed_victory_hand_ middle_finger_ vulcan_salute_ v " ++
     "sideways_white_left_pointing_index_ sideways_white_right_pointing_index_ " ++
     "sideways_black_left_pointing_index_ sideways_black_right_pointing_index_ " ++
     "black_left_pointing_backhand_index_ black_right_pointing_backhand_index_ " ++
     "sideways_white_up_pointing_index_ v"),
   (0x1f5a, "sideways_black_up_pointing_index_ v black_up_pointing_backhand_index_ v " ++
     "black_heart_ desktop_computer_ keyboard_mouse_ three_networked_computers_ printer_ " ++
     "pocket_calculator_ black_hard_shell_floppy_disk_ white_hard_shell_floppy_disk_ " ++
     "soft_shell_floppy_disk_ tape_cartridge_ wired_keyboard_ one_button_mouse_"),
   (0x1f5b, "two_button_mouse_ computer_mouse_ trackball_ old_personal_computer_ hard_disk_ " ++
     "screen_ printer_icon_ fax_icon_ optical_disc_icon_ document_with_text_ " ++
     "document_with_text_picture_ document_with_picture_ framed_picture_ frame_with_tiles_ " ++
     "frame_with_an_x_ black_folder_"),
   (0x1f5c, "folder_ open_folder_ card_index_dividers_ card_file_box_ file_cabinet_ " ++
     "empty_note_ empty_note_page_ empty_note_pad_ note_ note_page_ note_pad_ empty_document_ " ++
     "empty_page_ empty_pages_ document_ page_"),
   (0x1f5d, "pages_ wastebasket_ spiral_notepad_ spiral_calendar_ desktop_window_ minimize_ " ++
     "maximize_ overlap_ ? cancellation_x_ increase_font_size_ decrease_font_size_ clamp_ " ++
     "old_key_ newspaper_roll_ page_with_circled_text_"),
   (0x1f5e, "stock_chart_ dagger_ lips_ speaking_head_ three_rays_above_ three_rays_below_ " ++
     "three_rays_left_ three_rays_right_ left_speech_bubble_ right_speech_bubble_ " ++
     "two_speech_bubbles_ three_speech_bubbles_ left_thought_bubble_ right_thought_bubble_ " ++
     "left_anger_bubble_ right_anger_bubble_"),
   (0x1f5f, "mood_bubble_ lightning_mood_bubble_ lightning_mood_ ballot_box_ ballot_script_x_ " ++
     "ballot_box_with_script_x_ ballot_bold_script_x_ ballot_box_with_bold_script_x_ " ++
     "light_check_mark_ ballot_box_with_bold_check_ world_map_ mount_fuji_ tokyo_tower_ " ++
     "statue_of_liberty_ japan_ moyai_"),
   (0x1f60, "grinning_ grin_ joy_ smiley_ smile_ sweat_smile_ laughing_ innocent_ smiling_imp_ " ++
     "wink_ blush_ yum_ relieved_ heart_eyes_ sunglasses_ smirk_"),
   (0x1f61, "neutral_face_ expressionless_ unamused_ sweat_ pensive_ confused_ confounded_ " ++
     "kissing_ kissing_heart_ kissing_smiling_eyes_ kissing_closed_eyes_ stuck_out_tongue_ " ++
     "stuck_out_tongue_winking_eye_ stuck_out_tongue_closed_eyes_ disappointed_ worried_"),
   (0x1f62, "angry_ rage_ cry_ persevere_ triumph_ disappointed_relieved_ frowning_ anguished_ " ++
     "fearful_ weary_ sleepy_ tired_face_ grimacing_ sob_ open_mouth_ hushed_"),
   (0x1f63, "cold_sweat_ scream_ astonished_ flushed_ sleeping_ dizzy_face_ no_mouth_ mask_ " ++
     "smile_cat_ joy_cat_ smiley_cat_ heart_eyes_cat_ smirk_cat_ kissing_cat_ pouting_cat_ " ++
     "crying_cat_face_"),
   (0x1f64, "scream_cat_ slightly_frowning_face_ slightly_smiling_face_ upside_down_face_ " ++
     "roll_eyes_ no_good_ ok_person_ bow_ see_no_evil_ hear_no_evil_ speak_no_evil_ " ++
     "raising_hand_ raised_hands_ frowning_person_ pouting_face_ pray_"),
   (0x1f65, "north_west_pointing_leaf_ south_west_pointing_leaf_ north_east_pointing_leaf_ " ++
     "south_east_pointing_leaf_ turned_north_west_pointing_leaf_ " ++
     "turned_south_west_pointing_leaf_ turned_north_east_pointing_leaf_ " ++
     "turned_south_east_pointing_leaf_ north_west_pointing_vine_leaf_ " ++
     "south_west_pointing_vine_leaf_ north_east_pointing_vine_leaf_ " ++
     "south_east_pointing_vine_leaf_ heavy_north_west_pointing_vine_leaf_ " ++
     "heavy_south_west_pointing_vine_leaf_ heavy_north_east_pointing_vine_leaf_ " ++
     "heavy_south_east_pointing_vine_leaf_"),
   (0x1f66, "north_west_pointing_bud_ south_west_pointing_bud_ north_east_pointing_bud_ " ++
     "south_east_pointing_bud_ heavy_north_west_pointing_bud_ heavy_south_west_pointing_bud_ " ++
     "heavy_north_east_pointing_bud_ heavy_south_east_pointing_bud_ ? ? ? ? leftwards_rocket_ " ++
     "upwards_rocket_ rightwards_rocket_ downwards_rocket_"),
   (0x1f67, "? ? ? ? ? ? ? ? ? ? ? ? very_heavy_solidus_ very_heavy_reverse_solidus_ " ++
     "checker_board_ reverse_checker_board_"),
   (0x1f68, "rocket_ helicopter_ steam_locomotive_ railway_car_ bullettrain_side_ " ++
     "bullettrain_front_ train2_ metro_ light_rail_ station_ tram_ train_ bus_ oncoming_bus_ " ++
     "trolleybus_ busstop_"),
   (0x1f69, "minibus_ ambulance_ fire_engine_ police_car_ oncoming_police_car_ taxi_ " ++
     "oncoming_taxi_ car_ oncoming_automobile_ blue_car_ truck_ articulated_lorry_ tractor_ " ++
     "monorail_ mountain_railway_ suspension_railway_"),
   (0x1f6a, "mountain_cableway_ aerial_tramway_ ship_ rowboat_ speedboat_ traffic_light_ " ++
     "vertical_traffic_light_ construction_ rotating_light_ triangular_flag_on_post_ door_ " ++
     "no_entry_sign_ smoking_ no_smoking_ put_litter_in_its_place_ do_not_litter_"),
   (0x1f6b, "potable_water_ non_potable_water_ bike_ no_bicycles_ bicyclist_ " ++
     "mountain_bicyclist_ walking_ no_pedestrians_ children_crossing_ mens_ womens_ restroom_ " ++
     "baby_symbol_ toilet_ wc_ shower_"),
   (0x1f6c, "bath_ bathtub_ passport_control_ customs_ baggage_claim_ left_luggage_ " ++
     "triangle_with_rounded_corners_ x circled_information_source_ boys_ girls_ " ++
     "couch_and_lamp_ sleeping_bed_ shopping_ bellhop_ bed_"),
   (0x1f6d, "place_of_worship_ stop_sign_ shopping_cart_ stupa_ pagoda_ hindu_temple_ hut_ " ++
     "elevator_ ? ? ? ? wireless_ playground_slide_ wheel_ ring_buoy_"),
   (0x1f6e, "hammer_and_wrench_ shield_ oil_drum_ motorway_ railway_track_ motor_boat_ " ++
     "up_pointing_military_airplane_ up_pointing_airplane_ up_pointing_small_airplane_ " ++
     "small_airplane_ northeast_pointing_airplane_ flight_departure_ flight_arrival_"),
   (0x1f6f, "artificial_satellite_ oncoming_fire_engine_ diesel_locomotive_ passenger_ship_ " ++
     "kick_scooter_ motor_scooter_ canoe_ sled_ flying_saucer_ skateboard_ auto_rickshaw_ " ++
     "pickup_truck_ roller_skate_"),
   (0x1f70, "Q A F E W A AR AR AV AV V V V S PS BS"),
   (0x1f71, "MS MS MS C S N V V RS RS G S IO IO CI RI"),
   (0x1f72, "CO IO SC CC CC CA SCA SSC V TO LO AO SA SA SSA VA"),
   (0x1f73, "RA RA R R R R A A M S A R R A BO T"),
   (0x1f74, "T QL B B B A O S T G W P C T CM SJ"),
   (0x1f75, "C T ST L S U HD A PA B PB A SSS SSS S P"),
   (0x1f76, "D D D P P C C C C C A BM BV R H N"),
   (0x1f77, "D M HD HO"),
   (0x1f7e, "orange_circle_ yellow_circle_ green_circle_ purple_circle_ brown_circle_ " ++
     "red_square_ blue_square_ orange_square_ yellow_square_ green_square_ purple_square_ " ++
     "brown_square_"),
   (0x1f7f, "heavy_equals_sign_"),
   (0x1f80, "? ? ? v ? ? ? v ? ? ? v"),
   (0x1f81, "? ? ? v ? ? ? v ? ? ? v ? ? ? v"),
   (0x1f82, "? ? ? v ? ? ? v ? ? ? v ? ? ? v"),
   (0x1f83, "? ? ? v ? ? ? v ? ? ? v ? ? ? v"),
   (0x1f84, "? ? ? v ? ? ? v"),
   (0x1f85, "? ? ? v"),
   (0x1f86, "? ? ? v ? ? ? ? ? ? ? v"),
   (0x1f87, "? ? ? v ? ? ? ? ? ? ? v"),
   (0x1f88, "? ? ? v"),
   (0x1f89, "? ? ? v ? ? ? v ? ? ? v"),
   (0x1f90, "? ? ? left_half_circle_with_four_dots_ left_half_circle_with_three_dots_ " ++
     "left_half_circle_with_two_dots_ left_half_circle_with_dot_ left_half_circle_ " ++
     "downward_facing_hook_ downward_facing_notched_hook_ left_facing_fist_ " ++
     "downward_facing_notched_hook_with_dot_ pinched_fingers_ white_heart_ brown_heart_ " ++
     "pinching_hand_"),
   (0x1f91, "zipper_mouth_face_ money_mouth_face_ face_with_thermometer_ nerd_face_ thinking_ " ++
     "face_with_head_bandage_ robot_ hugs_ metal_ call_me_hand_ raised_back_of_hand_ " ++
     "fist_left_ fist_right_ handshake_ crossed_fingers_ love_you_gesture_"),
   (0x1f92, "cowboy_hat_face_ clown_face_ nauseated_face_ rofl_ drooling_face_ lying_face_ " ++
     "facepalm_ sneezing_face_ raised_eyebrow_ star_struck_ zany_face_ shushing_face_ " ++
     "cursing_face_ hand_over_mouth_ vomiting_face_ exploding_head_"),
   (0x1f93, "pregnant_woman_ breast_feeding_ palms_up_together_ selfie_ prince_ " ++
     "person_in_tuxedo_ mrs_claus_ shrug_ cartwheeling_ juggling_person_ person_fencing_ " ++
     "modern_pentathlon_ wrestling_ water_polo_ handball_person_ diving_mask_"),
   (0x1f94, "wilted_flower_ drum_ clinking_glasses_ tumbler_glass_ spoon_ goal_net_ rifle_ " ++
     "1st_place_medal_ 2nd_place_medal_ 3rd_place_medal_ boxing_glove_ martial_arts_uniform_ " ++
     "curling_stone_ lacrosse_ softball_ flying_disc_"),
   (0x1f95, "croissant_ avocado_ cucumber_ bacon_ potato_ carrot_ baguette_bread_ green_salad_ " ++
     "shallow_pan_of_food_ stuffed_flatbread_ egg_ milk_glass_ peanuts_ kiwi_fruit_ pancakes_ " ++
     "dumpling_"),
   (0x1f96, "fortune_cookie_ takeout_box_ chopsticks_ bowl_with_spoon_ cup_with_straw_ " ++
     "coconut_ broccoli_ pie_ pretzel_ cut_of_meat_ sandwich_ canned_food_ leafy_green_ mango_ " ++
     "moon_cake_ bagel_"),
   (0x1f97, "smiling_face_with_three_hearts_ yawning_face_ smiling_face_with_tear_ " ++
     "partying_face_ woozy_face_ hot_face_ cold_face_ ninja_ disguised_face_ " ++
     "face_holding_back_tears_ pleading_face_ sari_ lab_coat_ goggles_ hiking_boot_ flat_shoe_"),
   (0x1f98, "crab_ lion_ scorpion_ turkey_ unicorn_ eagle_ duck_ bat_ shark_ owl_ fox_face_ " ++
     "butterfly_ deer_ gorilla_ lizard_ rhinoceros_"),
   (0x1f99, "shrimp_ squid_ giraffe_ zebra_ hedgehog_ sauropod_ t_rex_ cricket_ kangaroo_ " ++
     "llama_ peacock_ hippopotamus_ parrot_ raccoon_ lobster_ mosquito_"),
   (0x1f9a, "microbe_ badger_ swan_ mammoth_ dodo_ sloth_ otter_ orangutan_ skunk_ flamingo_ " ++
     "oyster_ beaver_ bison_ seal_ guide_dog_ probing_cane_"),
   (0x1f9b, "red_hair_ curly_hair_ bald_ white_hair_ bone_ leg_ foot_ tooth_ superhero_ " ++
     "supervillain_ safety_vest_ ear_with_hearing_aid_ motorized_wheelchair_ " ++
     "manual_wheelchair_ mechanical_arm_ mechanical_leg_"),
   (0x1f9c, "cheese_ cupcake_ salt_ beverage_box_ garlic_ onion_ falafel_ waffle_ butter_ " ++
     "mate_ ice_cube_ bubble_tea_ troll_ standing_person_ kneeling_person_ deaf_person_"),
   (0x1f9d, "monocle_face_ adult_ child_ older_adult_ bearded_person_ woman_with_headscarf_ " ++
     "sauna_person_ climbing_ lotus_position_ mage_ fairy_ vampire_ merperson_ elf_ genie_ " ++
     "zombie_"),
   (0x1f9e, "brain_ orange_heart_ billed_cap_ scarf_ gloves_ coat_ socks_ red_envelope_ " ++
     "firecracker_ jigsaw_ test_tube_ petri_dish_ dna_ compass_ abacus_ fire_extinguisher_"),
   (0x1f9f, "toolbox_ bricks_ magnet_ luggage_ lotion_bottle_ thread_ yarn_ safety_pin_ " ++
     "teddy_bear_ broom_ basket_ roll_of_paper_ soap_ sponge_ receipt_ nazar_amulet_"),
   (0x1fa0, "K Q R B N P N N N K Q R B N P K"),
   (0x1fa1, "Q R B N P K Q R B N P N N N"),
   (0x1fa3, "N N N K Q R B N P K Q R B N P K"),
   (0x1fa4, "Q R B N P N N N E E E E E E N N"),
   (0x1fa5, "N N N N"),
   (0x1fa6, "G A E H R C S G A E H R C S"),
   (0x1fa7, "ballet_shoes_ one_piece_swimsuit_ swim_brief_ shorts_ thong_sandal_ " ++
     "light_blue_heart_ grey_heart_ pink_heart_ drop_of_blood_ adhesive_bandage_ stethoscope_ " ++
     "x_ray_ crutch_"),
   (0x1fa8, "yo_yo_ kite_ parachute_ boomerang_ magic_wand_ pinata_ nesting_dolls_ maracas_ " ++
     "flute_"),
   (0x1fa9, "ringed_planet_ chair_ razor_ axe_ diya_lamp_ banjo_ military_helmet_ accordion_ " ++
     "long_drum_ coin_ carpentry_saw_ screwdriver_ ladder_ hook_ mirror_ window_"),
   (0x1faa, "plunger_ sewing_needle_ knot_ bucket_ mouse_trap_ toothbrush_ headstone_ placard_ " ++
     "rock_ mirror_ball_ identification_card_ low_battery_ hamsa_ folding_hand_fan_ hair_pick_ " ++
     "khanda_"),
   (0x1fab, "fly_ worm_ beetle_ cockroach_ potted_plant_ wood_ feather_ lotus_ coral_ " ++
     "empty_nest_ nest_with_eggs_ hyacinth_ jellyfish_ wing_ ? goose_"),
   (0x1fac, "anatomical_heart_ lungs_ people_hugging_ pregnant_man_ pregnant_person_ " ++
     "person_with_crown_ ? ? ? ? ? ? ? ? moose_ donkey_"),
   (0x1fad, "blueberries_ bell_pepper_ olive_ flatbread_ tamale_ fondue_ teapot_ " ++
     "pouring_liquid_ beans_ jar_ ginger_root_ pea_pod_"),
   (0x1fae, "melting_face_ saluting_face_ face_with_open_eyes_and_hand_over_mouth_ " ++
     "face_with_peeking_eye_ face_with_diagonal_mouth_ dotted_line_face_ biting_lip_ bubbles_ " ++
     "shaking_face_"),
   (0x1faf, "hand_with_index_finger_and_thumb_crossed_ rightwards_hand_ leftwards_hand_ " ++
     "palm_down_hand_ palm_up_hand_ index_pointing_at_the_viewer_ heart_hands_ " ++
     "leftwards_pushing_hand_ rightwards_pushing_hand_"),
   (0x1fba, "? ? ? ? ? ? ? ? ? ? ? ? ? x"),
   (0x1fbb, "? ? ? ? ? ? ? ? "),
   (0x1fbf, "0 1 2 3 4 5 6 7 8 9")]

end Stencil.Text.Spelling
