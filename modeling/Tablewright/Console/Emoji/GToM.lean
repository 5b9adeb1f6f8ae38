/-!
# Emoji whose names begin with g to m
-/

namespace Tablewright.Emoji

/-- The emoji whose names begin with g to m, under their names. -/
def namesGToM : List (String × String) := [
  ("gabon", "🇬🇦"), ("gambia", "🇬🇲"), ("game_die", "🎲"), ("garlic", "🧄"), ("gear", "⚙"),
  ("gem", "💎"), ("gem_stone", "💎"), ("gemini", "♊"), ("genie", "🧞"), ("georgia", "🇬🇪"),
  ("germany", "🇩🇪"), ("ghana", "🇬🇭"), ("ghost", "👻"), ("gibraltar", "🇬🇮"), ("gift", "🎁"),
  ("gift_heart", "💝"), ("giraffe", "🦒"), ("girl", "👧"), ("girl_dark_skin_tone", "👧🏿"),
  ("girl_light_skin_tone", "👧🏻"), ("girl_medium-dark_skin_tone", "👧🏾"),
  ("girl_medium-light_skin_tone", "👧🏼"), ("girl_medium_skin_tone", "👧🏽"),
  ("glass_of_milk", "🥛"), ("glasses", "👓"), ("globe_showing_americas", "🌎"),
  ("globe_showing_asia-australia", "🌏"), ("globe_showing_europe-africa", "🌍"),
  ("globe_with_meridians", "🌐"), ("gloves", "🧤"), ("glowing_star", "🌟"), ("goal_net", "🥅"),
  ("goat", "🐐"), ("goblin", "👺"), ("goggles", "🥽"), ("golf", "⛳"), ("golfer", "🏌"),
  ("gorilla", "🦍"), ("graduation_cap", "🎓"), ("grapes", "🍇"), ("greece", "🇬🇷"),
  ("green_apple", "🍏"), ("green_book", "📗"), ("green_circle", "🟢"), ("green_heart", "💚"),
  ("green_salad", "🥗"), ("green_square", "🟩"), ("greenland", "🇬🇱"), ("grenada", "🇬🇩"),
  ("grey_exclamation", "❕"), ("grey_question", "❔"), ("grimacing", "😬"),
  ("grimacing_face", "😬"), ("grin", "😁"), ("grinning", "😀"), ("grinning_cat_face", "😺"),
  ("grinning_cat_face_with_smiling_eyes", "😸"), ("grinning_face", "😀"),
  ("grinning_face_with_big_eyes", "😃"), ("grinning_face_with_smiling_eyes", "😄"),
  ("grinning_face_with_sweat", "😅"), ("grinning_squinting_face", "😆"),
  ("growing_heart", "💗"), ("guadeloupe", "🇬🇵"), ("guam", "🇬🇺"), ("guard", "💂"),
  ("guard_dark_skin_tone", "💂🏿"), ("guard_light_skin_tone", "💂🏻"),
  ("guard_medium-dark_skin_tone", "💂🏾"), ("guard_medium-light_skin_tone", "💂🏼"),
  ("guard_medium_skin_tone", "💂🏽"), ("guardsman", "💂"), ("guatemala", "🇬🇹"),
  ("guernsey", "🇬🇬"), ("guide_dog", "🦮"), ("guinea", "🇬🇳"), ("guinea-bissau", "🇬🇼"),
  ("guitar", "🎸"), ("gun", "🔫"), ("guyana", "🇬🇾"), ("haircut", "💇"), ("haiti", "🇭🇹"),
  ("hamburger", "🍔"), ("hammer", "🔨"), ("hammer_and_pick", "⚒"), ("hammer_and_wrench", "🛠"),
  ("hamster", "🐹"), ("hamster_face", "🐹"), ("hand", "✋"),
  ("hand_with_fingers_splayed", "🖐"), ("hand_with_fingers_splayed_dark_skin_tone", "🖐🏿"),
  ("hand_with_fingers_splayed_light_skin_tone", "🖐🏻"),
  ("hand_with_fingers_splayed_medium-dark_skin_tone", "🖐🏾"),
  ("hand_with_fingers_splayed_medium-light_skin_tone", "🖐🏼"),
  ("hand_with_fingers_splayed_medium_skin_tone", "🖐🏽"), ("handbag", "👜"),
  ("handshake", "🤝"), ("hankey", "💩"), ("hatched_chick", "🐥"), ("hatching_chick", "🐣"),
  ("headphone", "🎧"), ("headphones", "🎧"), ("hear-no-evil_monkey", "🙉"),
  ("hear_no_evil", "🙉"), ("heard_&_mcdonald_islands", "🇭🇲"), ("heart", "❤"),
  ("heart_decoration", "💟"), ("heart_eyes", "😍"), ("heart_eyes_cat", "😻"),
  ("heart_suit", "♥"), ("heart_with_arrow", "💘"), ("heart_with_ribbon", "💝"),
  ("heartbeat", "💓"), ("heartpulse", "💗"), ("hearts", "♥"), ("heavy_check_mark", "✔"),
  ("heavy_division_sign", "➗"), ("heavy_dollar_sign", "💲"), ("heavy_exclamation_mark", "❗"),
  ("heavy_heart_exclamation", "❣"), ("heavy_heart_exclamation_mark_ornament", "❣"),
  ("heavy_large_circle", "⭕"), ("heavy_minus_sign", "➖"), ("heavy_multiplication_x", "✖"),
  ("heavy_plus_sign", "➕"), ("hedgehog", "🦔"), ("helicopter", "🚁"), ("helm_symbol", "⎈"),
  ("helmet_with_white_cross", "⛑"), ("herb", "🌿"), ("hibiscus", "🌺"),
  ("high-heeled_shoe", "👠"), ("high-speed_train", "🚄"), ("high_brightness", "🔆"),
  ("high_heel", "👠"), ("high_voltage", "⚡"), ("hiking_boot", "🥾"), ("hindu_temple", "🛕"),
  ("hippopotamus", "🦛"), ("hocho", "🔪"), ("hole", "🕳"), ("honduras", "🇭🇳"),
  ("honey_pot", "🍯"), ("honeybee", "🐝"), ("hong_kong_sar_china", "🇭🇰"),
  ("horizontal_traffic_light", "🚥"), ("horse", "🐴"), ("horse_face", "🐴"),
  ("horse_racing", "🏇"), ("horse_racing_dark_skin_tone", "🏇🏿"),
  ("horse_racing_light_skin_tone", "🏇🏻"), ("horse_racing_medium-dark_skin_tone", "🏇🏾"),
  ("horse_racing_medium-light_skin_tone", "🏇🏼"), ("horse_racing_medium_skin_tone", "🏇🏽"),
  ("hospital", "🏥"), ("hot_beverage", "☕"), ("hot_dog", "🌭"), ("hot_face", "🥵"),
  ("hot_pepper", "🌶"), ("hot_springs", "♨"), ("hotel", "🏨"), ("hotsprings", "♨"),
  ("hourglass", "⌛"), ("hourglass_done", "⌛"), ("hourglass_flowing_sand", "⏳"),
  ("hourglass_not_done", "⏳"), ("house", "🏠"), ("house_buildings", "🏘"),
  ("house_with_garden", "🏡"), ("houses", "🏘"), ("hugging_face", "🤗"),
  ("hundred_points", "💯"), ("hungary", "🇭🇺"), ("hushed", "😯"), ("hushed_face", "😯"),
  ("ice", "🧊"), ("ice_cream", "🍨"), ("ice_hockey", "🏒"), ("ice_hockey_stick_and_puck", "🏒"),
  ("ice_skate", "⛸"), ("icecream", "🍦"), ("iceland", "🇮🇸"), ("id", "🆔"), ("id_button", "🆔"),
  ("ideograph_advantage", "🉐"), ("imp", "👿"), ("inbox_tray", "📥"),
  ("incoming_envelope", "📨"), ("index_pointing_up", "☝"),
  ("index_pointing_up_dark_skin_tone", "☝🏿"), ("index_pointing_up_light_skin_tone", "☝🏻"),
  ("index_pointing_up_medium-dark_skin_tone", "☝🏾"),
  ("index_pointing_up_medium-light_skin_tone", "☝🏼"),
  ("index_pointing_up_medium_skin_tone", "☝🏽"), ("india", "🇮🇳"), ("indonesia", "🇮🇩"),
  ("infinity", "♾"), ("information", "ℹ"), ("information_desk_person", "💁"),
  ("information_source", "ℹ"), ("innocent", "😇"), ("input_latin_letters", "🔤"),
  ("input_latin_lowercase", "🔡"), ("input_latin_uppercase", "🔠"), ("input_numbers", "🔢"),
  ("input_symbols", "🔣"), ("interrobang", "⁉"), ("iphone", "📱"), ("iran", "🇮🇷"),
  ("iraq", "🇮🇶"), ("ireland", "🇮🇪"), ("isle_of_man", "🇮🇲"), ("israel", "🇮🇱"),
  ("italy", "🇮🇹"), ("izakaya_lantern", "🏮"), ("jack-o-lantern", "🎃"),
  ("jack_o_lantern", "🎃"), ("jamaica", "🇯🇲"), ("japan", "🗾"),
  ("japanese_acceptable_button", "🉑"), ("japanese_application_button", "🈸"),
  ("japanese_bargain_button", "🉐"), ("japanese_castle", "🏯"),
  ("japanese_congratulations_button", "㊗"), ("japanese_discount_button", "🈹"),
  ("japanese_dolls", "🎎"), ("japanese_free_of_charge_button", "🈚"),
  ("japanese_goblin", "👺"), ("japanese_here_button", "🈁"),
  ("japanese_monthly_amount_button", "🈷"), ("japanese_no_vacancy_button", "🈵"),
  ("japanese_not_free_of_charge_button", "🈶"), ("japanese_ogre", "👹"),
  ("japanese_open_for_business_button", "🈺"), ("japanese_passing_grade_button", "🈴"),
  ("japanese_post_office", "🏣"), ("japanese_prohibited_button", "🈲"),
  ("japanese_reserved_button", "🈯"), ("japanese_secret_button", "㊙"),
  ("japanese_service_charge_button", "🈂"), ("japanese_symbol_for_beginner", "🔰"),
  ("japanese_vacancy_button", "🈳"), ("jeans", "👖"), ("jersey", "🇯🇪"), ("jigsaw", "🧩"),
  ("joker", "🃏"), ("jordan", "🇯🇴"), ("joy", "😂"), ("joy_cat", "😹"), ("joystick", "🕹"),
  ("kaaba", "🕋"), ("kangaroo", "🦘"), ("kazakhstan", "🇰🇿"), ("kenya", "🇰🇪"), ("key", "🔑"),
  ("keyboard", "⌨"), ("keycap_#", "#️⃣"), ("keycap_*", "*️⃣"), ("keycap_0", "0️⃣"),
  ("keycap_1", "1️⃣"), ("keycap_10", "🔟"), ("keycap_2", "2️⃣"), ("keycap_3", "3️⃣"),
  ("keycap_4", "4️⃣"), ("keycap_5", "5️⃣"), ("keycap_6", "6️⃣"), ("keycap_7", "7️⃣"),
  ("keycap_8", "8️⃣"), ("keycap_9", "9️⃣"), ("keycap_asterisk", "*⃣"),
  ("keycap_digit_eight", "8⃣"), ("keycap_digit_five", "5⃣"), ("keycap_digit_four", "4⃣"),
  ("keycap_digit_nine", "9⃣"), ("keycap_digit_one", "1⃣"), ("keycap_digit_seven", "7⃣"),
  ("keycap_digit_six", "6⃣"), ("keycap_digit_three", "3⃣"), ("keycap_digit_two", "2⃣"),
  ("keycap_digit_zero", "0⃣"), ("keycap_number_sign", "#⃣"), ("kick_scooter", "🛴"),
  ("kimono", "👘"), ("kiribati", "🇰🇮"), ("kiss", "💋"), ("kiss_man_man", "👨‍❤️‍💋‍👨"),
  ("kiss_mark", "💋"), ("kiss_woman_man", "👩‍❤️‍💋‍👨"), ("kiss_woman_woman", "👩‍❤️‍💋‍👩"),
  ("kissing", "😗"), ("kissing_cat", "😽"), ("kissing_cat_face", "😽"),
  ("kissing_closed_eyes", "😚"), ("kissing_face", "😗"),
  ("kissing_face_with_closed_eyes", "😚"), ("kissing_face_with_smiling_eyes", "😙"),
  ("kissing_heart", "😘"), ("kissing_smiling_eyes", "😙"), ("kitchen_knife", "🔪"),
  ("kite", "🪁"), ("kiwi_fruit", "🥝"), ("knife", "🔪"), ("koala", "🐨"), ("koko", "🈁"),
  ("kosovo", "🇽🇰"), ("kuwait", "🇰🇼"), ("kyrgyzstan", "🇰🇬"), ("lab_coat", "🥼"),
  ("label", "🏷"), ("lacrosse", "🥍"), ("lady_beetle", "🐞"), ("lantern", "🏮"), ("laos", "🇱🇦"),
  ("laptop_computer", "💻"), ("large_blue_circle", "🔵"), ("large_blue_diamond", "🔷"),
  ("large_orange_diamond", "🔶"), ("last_quarter_moon", "🌗"),
  ("last_quarter_moon_face", "🌜"), ("last_quarter_moon_with_face", "🌜"),
  ("last_track_button", "⏮"), ("latin_cross", "✝"), ("latvia", "🇱🇻"), ("laughing", "😆"),
  ("leaf_fluttering_in_wind", "🍃"), ("leafy_green", "🥬"), ("leaves", "🍃"),
  ("lebanon", "🇱🇧"), ("ledger", "📒"), ("left-facing_fist", "🤛"),
  ("left-facing_fist_dark_skin_tone", "🤛🏿"), ("left-facing_fist_light_skin_tone", "🤛🏻"),
  ("left-facing_fist_medium-dark_skin_tone", "🤛🏾"),
  ("left-facing_fist_medium-light_skin_tone", "🤛🏼"),
  ("left-facing_fist_medium_skin_tone", "🤛🏽"), ("left-right_arrow", "↔"),
  ("left_arrow", "⬅"), ("left_arrow_curving_right", "↪"), ("left_luggage", "🛅"),
  ("left_right_arrow", "↔"), ("left_speech_bubble", "🗨"),
  ("leftwards_arrow_with_hook", "↩"), ("leg", "🦵"), ("lemon", "🍋"), ("leo", "♌"),
  ("leopard", "🐆"), ("lesotho", "🇱🇸"), ("level_slider", "🎚"), ("liberia", "🇱🇷"),
  ("libra", "♎"), ("libya", "🇱🇾"), ("liechtenstein", "🇱🇮"), ("light_bulb", "💡"),
  ("light_rail", "🚈"), ("light_skin_tone", "🏻"), ("link", "🔗"), ("linked_paperclips", "🖇"),
  ("lion_face", "🦁"), ("lips", "👄"), ("lipstick", "💄"), ("lithuania", "🇱🇹"),
  ("litter_in_bin_sign", "🚮"), ("lizard", "🦎"), ("llama", "🦙"), ("lobster", "🦞"),
  ("lock", "🔒"), ("lock_with_ink_pen", "🔏"), ("locked", "🔒"), ("locked_with_key", "🔐"),
  ("locked_with_pen", "🔏"), ("locomotive", "🚂"), ("lollipop", "🍭"), ("loop", "➿"),
  ("lotion_bottle", "🧴"), ("loud_sound", "🔊"), ("loudly_crying_face", "😭"),
  ("loudspeaker", "📢"), ("love-you_gesture", "🤟"),
  ("love-you_gesture_dark_skin_tone", "🤟🏿"), ("love-you_gesture_light_skin_tone", "🤟🏻"),
  ("love-you_gesture_medium-dark_skin_tone", "🤟🏾"),
  ("love-you_gesture_medium-light_skin_tone", "🤟🏼"),
  ("love-you_gesture_medium_skin_tone", "🤟🏽"), ("love_hotel", "🏩"), ("love_letter", "💌"),
  ("low_brightness", "🔅"), ("lower_left_ballpoint_pen", "🖊"), ("lower_left_crayon", "🖍"),
  ("lower_left_fountain_pen", "🖋"), ("lower_left_paintbrush", "🖌"), ("luggage", "🧳"),
  ("luxembourg", "🇱🇺"), ("lying_face", "🤥"), ("m", "Ⓜ"), ("macau_sar_china", "🇲🇴"),
  ("macedonia", "🇲🇰"), ("madagascar", "🇲🇬"), ("mag", "🔍"), ("mag_right", "🔎"),
  ("mage", "🧙"), ("mage_dark_skin_tone", "🧙🏿"), ("mage_light_skin_tone", "🧙🏻"),
  ("mage_medium-dark_skin_tone", "🧙🏾"), ("mage_medium-light_skin_tone", "🧙🏼"),
  ("mage_medium_skin_tone", "🧙🏽"), ("magnet", "🧲"), ("magnifying_glass_tilted_left", "🔍"),
  ("magnifying_glass_tilted_right", "🔎"), ("mahjong", "🀄"), ("mahjong_red_dragon", "🀄"),
  ("mailbox", "📫"), ("mailbox_closed", "📪"), ("mailbox_with_mail", "📬"),
  ("mailbox_with_no_mail", "📭"), ("malawi", "🇲🇼"), ("malaysia", "🇲🇾"), ("maldives", "🇲🇻"),
  ("male_sign", "♂"), ("mali", "🇲🇱"), ("malta", "🇲🇹"), ("man", "👨"),
  ("man_and_woman_holding_hands", "👫"), ("man_artist", "👨‍🎨"),
  ("man_artist_dark_skin_tone", "👨🏿‍🎨"), ("man_artist_light_skin_tone", "👨🏻‍🎨"),
  ("man_artist_medium-dark_skin_tone", "👨🏾‍🎨"),
  ("man_artist_medium-light_skin_tone", "👨🏼‍🎨"), ("man_artist_medium_skin_tone", "👨🏽‍🎨"),
  ("man_astronaut", "👨‍🚀"), ("man_astronaut_dark_skin_tone", "👨🏿‍🚀"),
  ("man_astronaut_light_skin_tone", "👨🏻‍🚀"),
  ("man_astronaut_medium-dark_skin_tone", "👨🏾‍🚀"),
  ("man_astronaut_medium-light_skin_tone", "👨🏼‍🚀"),
  ("man_astronaut_medium_skin_tone", "👨🏽‍🚀"), ("man_biking", "🚴‍♂️"),
  ("man_biking_dark_skin_tone", "🚴🏿‍♂️"), ("man_biking_light_skin_tone", "🚴🏻‍♂️"),
  ("man_biking_medium-dark_skin_tone", "🚴🏾‍♂️"),
  ("man_biking_medium-light_skin_tone", "🚴🏼‍♂️"), ("man_biking_medium_skin_tone", "🚴🏽‍♂️"),
  ("man_bouncing_ball", "⛹️‍♂️"), ("man_bouncing_ball_dark_skin_tone", "⛹🏿‍♂️"),
  ("man_bouncing_ball_light_skin_tone", "⛹🏻‍♂️"),
  ("man_bouncing_ball_medium-dark_skin_tone", "⛹🏾‍♂️"),
  ("man_bouncing_ball_medium-light_skin_tone", "⛹🏼‍♂️"),
  ("man_bouncing_ball_medium_skin_tone", "⛹🏽‍♂️"), ("man_bowing", "🙇‍♂️"),
  ("man_bowing_dark_skin_tone", "🙇🏿‍♂️"), ("man_bowing_light_skin_tone", "🙇🏻‍♂️"),
  ("man_bowing_medium-dark_skin_tone", "🙇🏾‍♂️"),
  ("man_bowing_medium-light_skin_tone", "🙇🏼‍♂️"), ("man_bowing_medium_skin_tone", "🙇🏽‍♂️"),
  ("man_cartwheeling", "🤸‍♂️"), ("man_cartwheeling_dark_skin_tone", "🤸🏿‍♂️"),
  ("man_cartwheeling_light_skin_tone", "🤸🏻‍♂️"),
  ("man_cartwheeling_medium-dark_skin_tone", "🤸🏾‍♂️"),
  ("man_cartwheeling_medium-light_skin_tone", "🤸🏼‍♂️"),
  ("man_cartwheeling_medium_skin_tone", "🤸🏽‍♂️"), ("man_climbing", "🧗‍♂️"),
  ("man_climbing_dark_skin_tone", "🧗🏿‍♂️"), ("man_climbing_light_skin_tone", "🧗🏻‍♂️"),
  ("man_climbing_medium-dark_skin_tone", "🧗🏾‍♂️"),
  ("man_climbing_medium-light_skin_tone", "🧗🏼‍♂️"),
  ("man_climbing_medium_skin_tone", "🧗🏽‍♂️"), ("man_construction_worker", "👷‍♂️"),
  ("man_construction_worker_dark_skin_tone", "👷🏿‍♂️"),
  ("man_construction_worker_light_skin_tone", "👷🏻‍♂️"),
  ("man_construction_worker_medium-dark_skin_tone", "👷🏾‍♂️"),
  ("man_construction_worker_medium-light_skin_tone", "👷🏼‍♂️"),
  ("man_construction_worker_medium_skin_tone", "👷🏽‍♂️"), ("man_cook", "👨‍🍳"),
  ("man_cook_dark_skin_tone", "👨🏿‍🍳"), ("man_cook_light_skin_tone", "👨🏻‍🍳"),
  ("man_cook_medium-dark_skin_tone", "👨🏾‍🍳"), ("man_cook_medium-light_skin_tone", "👨🏼‍🍳"),
  ("man_cook_medium_skin_tone", "👨🏽‍🍳"), ("man_dancing", "🕺"),
  ("man_dancing_dark_skin_tone", "🕺🏿"), ("man_dancing_light_skin_tone", "🕺🏻"),
  ("man_dancing_medium-dark_skin_tone", "🕺🏾"), ("man_dancing_medium-light_skin_tone", "🕺🏼"),
  ("man_dancing_medium_skin_tone", "🕺🏽"), ("man_dark_skin_tone", "👨🏿"),
  ("man_detective", "🕵️‍♂️"), ("man_detective_dark_skin_tone", "🕵🏿‍♂️"),
  ("man_detective_light_skin_tone", "🕵🏻‍♂️"),
  ("man_detective_medium-dark_skin_tone", "🕵🏾‍♂️"),
  ("man_detective_medium-light_skin_tone", "🕵🏼‍♂️"),
  ("man_detective_medium_skin_tone", "🕵🏽‍♂️"), ("man_elf", "🧝‍♂️"),
  ("man_elf_dark_skin_tone", "🧝🏿‍♂️"), ("man_elf_light_skin_tone", "🧝🏻‍♂️"),
  ("man_elf_medium-dark_skin_tone", "🧝🏾‍♂️"), ("man_elf_medium-light_skin_tone", "🧝🏼‍♂️"),
  ("man_elf_medium_skin_tone", "🧝🏽‍♂️"), ("man_facepalming", "🤦‍♂️"),
  ("man_facepalming_dark_skin_tone", "🤦🏿‍♂️"), ("man_facepalming_light_skin_tone", "🤦🏻‍♂️"),
  ("man_facepalming_medium-dark_skin_tone", "🤦🏾‍♂️"),
  ("man_facepalming_medium-light_skin_tone", "🤦🏼‍♂️"),
  ("man_facepalming_medium_skin_tone", "🤦🏽‍♂️"), ("man_factory_worker", "👨‍🏭"),
  ("man_factory_worker_dark_skin_tone", "👨🏿‍🏭"),
  ("man_factory_worker_light_skin_tone", "👨🏻‍🏭"),
  ("man_factory_worker_medium-dark_skin_tone", "👨🏾‍🏭"),
  ("man_factory_worker_medium-light_skin_tone", "👨🏼‍🏭"),
  ("man_factory_worker_medium_skin_tone", "👨🏽‍🏭"), ("man_fairy", "🧚‍♂️"),
  ("man_fairy_dark_skin_tone", "🧚🏿‍♂️"), ("man_fairy_light_skin_tone", "🧚🏻‍♂️"),
  ("man_fairy_medium-dark_skin_tone", "🧚🏾‍♂️"),
  ("man_fairy_medium-light_skin_tone", "🧚🏼‍♂️"), ("man_fairy_medium_skin_tone", "🧚🏽‍♂️"),
  ("man_farmer", "👨‍🌾"), ("man_farmer_dark_skin_tone", "👨🏿‍🌾"),
  ("man_farmer_light_skin_tone", "👨🏻‍🌾"), ("man_farmer_medium-dark_skin_tone", "👨🏾‍🌾"),
  ("man_farmer_medium-light_skin_tone", "👨🏼‍🌾"), ("man_farmer_medium_skin_tone", "👨🏽‍🌾"),
  ("man_firefighter", "👨‍🚒"), ("man_firefighter_dark_skin_tone", "👨🏿‍🚒"),
  ("man_firefighter_light_skin_tone", "👨🏻‍🚒"),
  ("man_firefighter_medium-dark_skin_tone", "👨🏾‍🚒"),
  ("man_firefighter_medium-light_skin_tone", "👨🏼‍🚒"),
  ("man_firefighter_medium_skin_tone", "👨🏽‍🚒"), ("man_frowning", "🙍‍♂️"),
  ("man_frowning_dark_skin_tone", "🙍🏿‍♂️"), ("man_frowning_light_skin_tone", "🙍🏻‍♂️"),
  ("man_frowning_medium-dark_skin_tone", "🙍🏾‍♂️"),
  ("man_frowning_medium-light_skin_tone", "🙍🏼‍♂️"),
  ("man_frowning_medium_skin_tone", "🙍🏽‍♂️"), ("man_genie", "🧞‍♂️"),
  ("man_gesturing_no", "🙅‍♂️"), ("man_gesturing_no_dark_skin_tone", "🙅🏿‍♂️"),
  ("man_gesturing_no_light_skin_tone", "🙅🏻‍♂️"),
  ("man_gesturing_no_medium-dark_skin_tone", "🙅🏾‍♂️"),
  ("man_gesturing_no_medium-light_skin_tone", "🙅🏼‍♂️"),
  ("man_gesturing_no_medium_skin_tone", "🙅🏽‍♂️"), ("man_gesturing_ok", "🙆‍♂️"),
  ("man_gesturing_ok_dark_skin_tone", "🙆🏿‍♂️"),
  ("man_gesturing_ok_light_skin_tone", "🙆🏻‍♂️"),
  ("man_gesturing_ok_medium-dark_skin_tone", "🙆🏾‍♂️"),
  ("man_gesturing_ok_medium-light_skin_tone", "🙆🏼‍♂️"),
  ("man_gesturing_ok_medium_skin_tone", "🙆🏽‍♂️"), ("man_getting_haircut", "💇‍♂️"),
  ("man_getting_haircut_dark_skin_tone", "💇🏿‍♂️"),
  ("man_getting_haircut_light_skin_tone", "💇🏻‍♂️"),
  ("man_getting_haircut_medium-dark_skin_tone", "💇🏾‍♂️"),
  ("man_getting_haircut_medium-light_skin_tone", "💇🏼‍♂️"),
  ("man_getting_haircut_medium_skin_tone", "💇🏽‍♂️"), ("man_getting_massage", "💆‍♂️"),
  ("man_getting_massage_dark_skin_tone", "💆🏿‍♂️"),
  ("man_getting_massage_light_skin_tone", "💆🏻‍♂️"),
  ("man_getting_massage_medium-dark_skin_tone", "💆🏾‍♂️"),
  ("man_getting_massage_medium-light_skin_tone", "💆🏼‍♂️"),
  ("man_getting_massage_medium_skin_tone", "💆🏽‍♂️"), ("man_golfing", "🏌️‍♂️"),
  ("man_golfing_dark_skin_tone", "🏌🏿‍♂️"), ("man_golfing_light_skin_tone", "🏌🏻‍♂️"),
  ("man_golfing_medium-dark_skin_tone", "🏌🏾‍♂️"),
  ("man_golfing_medium-light_skin_tone", "🏌🏼‍♂️"),
  ("man_golfing_medium_skin_tone", "🏌🏽‍♂️"), ("man_guard", "💂‍♂️"),
  ("man_guard_dark_skin_tone", "💂🏿‍♂️"), ("man_guard_light_skin_tone", "💂🏻‍♂️"),
  ("man_guard_medium-dark_skin_tone", "💂🏾‍♂️"),
  ("man_guard_medium-light_skin_tone", "💂🏼‍♂️"), ("man_guard_medium_skin_tone", "💂🏽‍♂️"),
  ("man_health_worker", "👨‍⚕️"), ("man_health_worker_dark_skin_tone", "👨🏿‍⚕️"),
  ("man_health_worker_light_skin_tone", "👨🏻‍⚕️"),
  ("man_health_worker_medium-dark_skin_tone", "👨🏾‍⚕️"),
  ("man_health_worker_medium-light_skin_tone", "👨🏼‍⚕️"),
  ("man_health_worker_medium_skin_tone", "👨🏽‍⚕️"), ("man_in_business_suit_levitating", "🕴"),
  ("man_in_lotus_position", "🧘‍♂️"), ("man_in_lotus_position_dark_skin_tone", "🧘🏿‍♂️"),
  ("man_in_lotus_position_light_skin_tone", "🧘🏻‍♂️"),
  ("man_in_lotus_position_medium-dark_skin_tone", "🧘🏾‍♂️"),
  ("man_in_lotus_position_medium-light_skin_tone", "🧘🏼‍♂️"),
  ("man_in_lotus_position_medium_skin_tone", "🧘🏽‍♂️"), ("man_in_manual_wheelchair", "👨‍🦽"),
  ("man_in_motorized_wheelchair", "👨‍🦼"), ("man_in_steamy_room", "🧖‍♂️"),
  ("man_in_steamy_room_dark_skin_tone", "🧖🏿‍♂️"),
  ("man_in_steamy_room_light_skin_tone", "🧖🏻‍♂️"),
  ("man_in_steamy_room_medium-dark_skin_tone", "🧖🏾‍♂️"),
  ("man_in_steamy_room_medium-light_skin_tone", "🧖🏼‍♂️"),
  ("man_in_steamy_room_medium_skin_tone", "🧖🏽‍♂️"), ("man_in_suit_levitating", "🕴"),
  ("man_in_suit_levitating_dark_skin_tone", "🕴🏿"),
  ("man_in_suit_levitating_light_skin_tone", "🕴🏻"),
  ("man_in_suit_levitating_medium-dark_skin_tone", "🕴🏾"),
  ("man_in_suit_levitating_medium-light_skin_tone", "🕴🏼"),
  ("man_in_suit_levitating_medium_skin_tone", "🕴🏽"), ("man_in_tuxedo", "🤵"),
  ("man_in_tuxedo_dark_skin_tone", "🤵🏿"), ("man_in_tuxedo_light_skin_tone", "🤵🏻"),
  ("man_in_tuxedo_medium-dark_skin_tone", "🤵🏾"),
  ("man_in_tuxedo_medium-light_skin_tone", "🤵🏼"), ("man_in_tuxedo_medium_skin_tone", "🤵🏽"),
  ("man_judge", "👨‍⚖️"), ("man_judge_dark_skin_tone", "👨🏿‍⚖️"),
  ("man_judge_light_skin_tone", "👨🏻‍⚖️"), ("man_judge_medium-dark_skin_tone", "👨🏾‍⚖️"),
  ("man_judge_medium-light_skin_tone", "👨🏼‍⚖️"), ("man_judge_medium_skin_tone", "👨🏽‍⚖️"),
  ("man_juggling", "🤹‍♂️"), ("man_juggling_dark_skin_tone", "🤹🏿‍♂️"),
  ("man_juggling_light_skin_tone", "🤹🏻‍♂️"),
  ("man_juggling_medium-dark_skin_tone", "🤹🏾‍♂️"),
  ("man_juggling_medium-light_skin_tone", "🤹🏼‍♂️"),
  ("man_juggling_medium_skin_tone", "🤹🏽‍♂️"), ("man_lifting_weights", "🏋️‍♂️"),
  ("man_lifting_weights_dark_skin_tone", "🏋🏿‍♂️"),
  ("man_lifting_weights_light_skin_tone", "🏋🏻‍♂️"),
  ("man_lifting_weights_medium-dark_skin_tone", "🏋🏾‍♂️"),
  ("man_lifting_weights_medium-light_skin_tone", "🏋🏼‍♂️"),
  ("man_lifting_weights_medium_skin_tone", "🏋🏽‍♂️"), ("man_light_skin_tone", "👨🏻"),
  ("man_mage", "🧙‍♂️"), ("man_mage_dark_skin_tone", "🧙🏿‍♂️"),
  ("man_mage_light_skin_tone", "🧙🏻‍♂️"), ("man_mage_medium-dark_skin_tone", "🧙🏾‍♂️"),
  ("man_mage_medium-light_skin_tone", "🧙🏼‍♂️"), ("man_mage_medium_skin_tone", "🧙🏽‍♂️"),
  ("man_mechanic", "👨‍🔧"), ("man_mechanic_dark_skin_tone", "👨🏿‍🔧"),
  ("man_mechanic_light_skin_tone", "👨🏻‍🔧"), ("man_mechanic_medium-dark_skin_tone", "👨🏾‍🔧"),
  ("man_mechanic_medium-light_skin_tone", "👨🏼‍🔧"),
  ("man_mechanic_medium_skin_tone", "👨🏽‍🔧"), ("man_medium-dark_skin_tone", "👨🏾"),
  ("man_medium-light_skin_tone", "👨🏼"), ("man_medium_skin_tone", "👨🏽"),
  ("man_mountain_biking", "🚵‍♂️"), ("man_mountain_biking_dark_skin_tone", "🚵🏿‍♂️"),
  ("man_mountain_biking_light_skin_tone", "🚵🏻‍♂️"),
  ("man_mountain_biking_medium-dark_skin_tone", "🚵🏾‍♂️"),
  ("man_mountain_biking_medium-light_skin_tone", "🚵🏼‍♂️"),
  ("man_mountain_biking_medium_skin_tone", "🚵🏽‍♂️"), ("man_office_worker", "👨‍💼"),
  ("man_office_worker_dark_skin_tone", "👨🏿‍💼"),
  ("man_office_worker_light_skin_tone", "👨🏻‍💼"),
  ("man_office_worker_medium-dark_skin_tone", "👨🏾‍💼"),
  ("man_office_worker_medium-light_skin_tone", "👨🏼‍💼"),
  ("man_office_worker_medium_skin_tone", "👨🏽‍💼"), ("man_pilot", "👨‍✈️"),
  ("man_pilot_dark_skin_tone", "👨🏿‍✈️"), ("man_pilot_light_skin_tone", "👨🏻‍✈️"),
  ("man_pilot_medium-dark_skin_tone", "👨🏾‍✈️"),
  ("man_pilot_medium-light_skin_tone", "👨🏼‍✈️"), ("man_pilot_medium_skin_tone", "👨🏽‍✈️"),
  ("man_playing_handball", "🤾‍♂️"), ("man_playing_handball_dark_skin_tone", "🤾🏿‍♂️"),
  ("man_playing_handball_light_skin_tone", "🤾🏻‍♂️"),
  ("man_playing_handball_medium-dark_skin_tone", "🤾🏾‍♂️"),
  ("man_playing_handball_medium-light_skin_tone", "🤾🏼‍♂️"),
  ("man_playing_handball_medium_skin_tone", "🤾🏽‍♂️"), ("man_playing_water_polo", "🤽‍♂️"),
  ("man_playing_water_polo_dark_skin_tone", "🤽🏿‍♂️"),
  ("man_playing_water_polo_light_skin_tone", "🤽🏻‍♂️"),
  ("man_playing_water_polo_medium-dark_skin_tone", "🤽🏾‍♂️"),
  ("man_playing_water_polo_medium-light_skin_tone", "🤽🏼‍♂️"),
  ("man_playing_water_polo_medium_skin_tone", "🤽🏽‍♂️"), ("man_police_officer", "👮‍♂️"),
  ("man_police_officer_dark_skin_tone", "👮🏿‍♂️"),
  ("man_police_officer_light_skin_tone", "👮🏻‍♂️"),
  ("man_police_officer_medium-dark_skin_tone", "👮🏾‍♂️"),
  ("man_police_officer_medium-light_skin_tone", "👮🏼‍♂️"),
  ("man_police_officer_medium_skin_tone", "👮🏽‍♂️"), ("man_pouting", "🙎‍♂️"),
  ("man_pouting_dark_skin_tone", "🙎🏿‍♂️"), ("man_pouting_light_skin_tone", "🙎🏻‍♂️"),
  ("man_pouting_medium-dark_skin_tone", "🙎🏾‍♂️"),
  ("man_pouting_medium-light_skin_tone", "🙎🏼‍♂️"),
  ("man_pouting_medium_skin_tone", "🙎🏽‍♂️"), ("man_raising_hand", "🙋‍♂️"),
  ("man_raising_hand_dark_skin_tone", "🙋🏿‍♂️"),
  ("man_raising_hand_light_skin_tone", "🙋🏻‍♂️"),
  ("man_raising_hand_medium-dark_skin_tone", "🙋🏾‍♂️"),
  ("man_raising_hand_medium-light_skin_tone", "🙋🏼‍♂️"),
  ("man_raising_hand_medium_skin_tone", "🙋🏽‍♂️"), ("man_rowing_boat", "🚣‍♂️"),
  ("man_rowing_boat_dark_skin_tone", "🚣🏿‍♂️"), ("man_rowing_boat_light_skin_tone", "🚣🏻‍♂️"),
  ("man_rowing_boat_medium-dark_skin_tone", "🚣🏾‍♂️"),
  ("man_rowing_boat_medium-light_skin_tone", "🚣🏼‍♂️"),
  ("man_rowing_boat_medium_skin_tone", "🚣🏽‍♂️"), ("man_running", "🏃‍♂️"),
  ("man_running_dark_skin_tone", "🏃🏿‍♂️"), ("man_running_light_skin_tone", "🏃🏻‍♂️"),
  ("man_running_medium-dark_skin_tone", "🏃🏾‍♂️"),
  ("man_running_medium-light_skin_tone", "🏃🏼‍♂️"),
  ("man_running_medium_skin_tone", "🏃🏽‍♂️"), ("man_scientist", "👨‍🔬"),
  ("man_scientist_dark_skin_tone", "👨🏿‍🔬"), ("man_scientist_light_skin_tone", "👨🏻‍🔬"),
  ("man_scientist_medium-dark_skin_tone", "👨🏾‍🔬"),
  ("man_scientist_medium-light_skin_tone", "👨🏼‍🔬"),
  ("man_scientist_medium_skin_tone", "👨🏽‍🔬"), ("man_shrugging", "🤷‍♂️"),
  ("man_shrugging_dark_skin_tone", "🤷🏿‍♂️"), ("man_shrugging_light_skin_tone", "🤷🏻‍♂️"),
  ("man_shrugging_medium-dark_skin_tone", "🤷🏾‍♂️"),
  ("man_shrugging_medium-light_skin_tone", "🤷🏼‍♂️"),
  ("man_shrugging_medium_skin_tone", "🤷🏽‍♂️"), ("man_singer", "👨‍🎤"),
  ("man_singer_dark_skin_tone", "👨🏿‍🎤"), ("man_singer_light_skin_tone", "👨🏻‍🎤"),
  ("man_singer_medium-dark_skin_tone", "👨🏾‍🎤"),
  ("man_singer_medium-light_skin_tone", "👨🏼‍🎤"), ("man_singer_medium_skin_tone", "👨🏽‍🎤"),
  ("man_student", "👨‍🎓"), ("man_student_dark_skin_tone", "👨🏿‍🎓"),
  ("man_student_light_skin_tone", "👨🏻‍🎓"), ("man_student_medium-dark_skin_tone", "👨🏾‍🎓"),
  ("man_student_medium-light_skin_tone", "👨🏼‍🎓"), ("man_student_medium_skin_tone", "👨🏽‍🎓"),
  ("man_surfing", "🏄‍♂️"), ("man_surfing_dark_skin_tone", "🏄🏿‍♂️"),
  ("man_surfing_light_skin_tone", "🏄🏻‍♂️"), ("man_surfing_medium-dark_skin_tone", "🏄🏾‍♂️"),
  ("man_surfing_medium-light_skin_tone", "🏄🏼‍♂️"),
  ("man_surfing_medium_skin_tone", "🏄🏽‍♂️"), ("man_swimming", "🏊‍♂️"),
  ("man_swimming_dark_skin_tone", "🏊🏿‍♂️"), ("man_swimming_light_skin_tone", "🏊🏻‍♂️"),
  ("man_swimming_medium-dark_skin_tone", "🏊🏾‍♂️"),
  ("man_swimming_medium-light_skin_tone", "🏊🏼‍♂️"),
  ("man_swimming_medium_skin_tone", "🏊🏽‍♂️"), ("man_teacher", "👨‍🏫"),
  ("man_teacher_dark_skin_tone", "👨🏿‍🏫"), ("man_teacher_light_skin_tone", "👨🏻‍🏫"),
  ("man_teacher_medium-dark_skin_tone", "👨🏾‍🏫"),
  ("man_teacher_medium-light_skin_tone", "👨🏼‍🏫"), ("man_teacher_medium_skin_tone", "👨🏽‍🏫"),
  ("man_technologist", "👨‍💻"), ("man_technologist_dark_skin_tone", "👨🏿‍💻"),
  ("man_technologist_light_skin_tone", "👨🏻‍💻"),
  ("man_technologist_medium-dark_skin_tone", "👨🏾‍💻"),
  ("man_technologist_medium-light_skin_tone", "👨🏼‍💻"),
  ("man_technologist_medium_skin_tone", "👨🏽‍💻"), ("man_tipping_hand", "💁‍♂️"),
  ("man_tipping_hand_dark_skin_tone", "💁🏿‍♂️"),
  ("man_tipping_hand_light_skin_tone", "💁🏻‍♂️"),
  ("man_tipping_hand_medium-dark_skin_tone", "💁🏾‍♂️"),
  ("man_tipping_hand_medium-light_skin_tone", "💁🏼‍♂️"),
  ("man_tipping_hand_medium_skin_tone", "💁🏽‍♂️"), ("man_vampire", "🧛‍♂️"),
  ("man_vampire_dark_skin_tone", "🧛🏿‍♂️"), ("man_vampire_light_skin_tone", "🧛🏻‍♂️"),
  ("man_vampire_medium-dark_skin_tone", "🧛🏾‍♂️"),
  ("man_vampire_medium-light_skin_tone", "🧛🏼‍♂️"),
  ("man_vampire_medium_skin_tone", "🧛🏽‍♂️"), ("man_walking", "🚶‍♂️"),
  ("man_walking_dark_skin_tone", "🚶🏿‍♂️"), ("man_walking_light_skin_tone", "🚶🏻‍♂️"),
  ("man_walking_medium-dark_skin_tone", "🚶🏾‍♂️"),
  ("man_walking_medium-light_skin_tone", "🚶🏼‍♂️"),
  ("man_walking_medium_skin_tone", "🚶🏽‍♂️"), ("man_wearing_turban", "👳‍♂️"),
  ("man_wearing_turban_dark_skin_tone", "👳🏿‍♂️"),
  ("man_wearing_turban_light_skin_tone", "👳🏻‍♂️"),
  ("man_wearing_turban_medium-dark_skin_tone", "👳🏾‍♂️"),
  ("man_wearing_turban_medium-light_skin_tone", "👳🏼‍♂️"),
  ("man_wearing_turban_medium_skin_tone", "👳🏽‍♂️"), ("man_with_chinese_cap", "👲"),
  ("man_with_chinese_cap_dark_skin_tone", "👲🏿"),
  ("man_with_chinese_cap_light_skin_tone", "👲🏻"),
  ("man_with_chinese_cap_medium-dark_skin_tone", "👲🏾"),
  ("man_with_chinese_cap_medium-light_skin_tone", "👲🏼"),
  ("man_with_chinese_cap_medium_skin_tone", "👲🏽"), ("man_with_gua_pi_mao", "👲"),
  ("man_with_probing_cane", "👨‍🦯"), ("man_with_turban", "👳"), ("man_zombie", "🧟‍♂️"),
  ("mango", "🥭"), ("mans_shoe", "👞"), ("mantelpiece_clock", "🕰"),
  ("manual_wheelchair", "🦽"), ("man’s_shoe", "👞"), ("map_of_japan", "🗾"),
  ("maple_leaf", "🍁"), ("marshall_islands", "🇲🇭"), ("martial_arts_uniform", "🥋"),
  ("martinique", "🇲🇶"), ("mask", "😷"), ("massage", "💆"), ("mate", "🧉"),
  ("mauritania", "🇲🇷"), ("mauritius", "🇲🇺"), ("mayotte", "🇾🇹"), ("meat_on_bone", "🍖"),
  ("mechanical_arm", "🦾"), ("mechanical_leg", "🦿"), ("medical_symbol", "⚕"),
  ("medium_dark_skin_tone", "🏾"), ("medium_light_skin_tone", "🏼"),
  ("medium_skin_tone", "🏽"), ("mega", "📣"), ("megaphone", "📣"), ("melon", "🍈"),
  ("memo", "📝"), ("men_with_bunny_ears", "👯‍♂️"), ("men_wrestling", "🤼‍♂️"),
  ("menorah", "🕎"), ("menorah_with_nine_branches", "🕎"), ("mens", "🚹"), ("men’s_room", "🚹"),
  ("mermaid", "🧜‍♀️"), ("mermaid_dark_skin_tone", "🧜🏿‍♀️"),
  ("mermaid_light_skin_tone", "🧜🏻‍♀️"), ("mermaid_medium-dark_skin_tone", "🧜🏾‍♀️"),
  ("mermaid_medium-light_skin_tone", "🧜🏼‍♀️"), ("mermaid_medium_skin_tone", "🧜🏽‍♀️"),
  ("merman", "🧜‍♂️"), ("merman_dark_skin_tone", "🧜🏿‍♂️"),
  ("merman_light_skin_tone", "🧜🏻‍♂️"), ("merman_medium-dark_skin_tone", "🧜🏾‍♂️"),
  ("merman_medium-light_skin_tone", "🧜🏼‍♂️"), ("merman_medium_skin_tone", "🧜🏽‍♂️"),
  ("merperson", "🧜"), ("merperson_dark_skin_tone", "🧜🏿"),
  ("merperson_light_skin_tone", "🧜🏻"), ("merperson_medium-dark_skin_tone", "🧜🏾"),
  ("merperson_medium-light_skin_tone", "🧜🏼"), ("merperson_medium_skin_tone", "🧜🏽"),
  ("metro", "🚇"), ("mexico", "🇲🇽"), ("microbe", "🦠"), ("micronesia", "🇫🇲"),
  ("microphone", "🎤"), ("microscope", "🔬"), ("middle_finger", "🖕"),
  ("middle_finger_dark_skin_tone", "🖕🏿"), ("middle_finger_light_skin_tone", "🖕🏻"),
  ("middle_finger_medium-dark_skin_tone", "🖕🏾"),
  ("middle_finger_medium-light_skin_tone", "🖕🏼"), ("middle_finger_medium_skin_tone", "🖕🏽"),
  ("military_medal", "🎖"), ("milky_way", "🌌"), ("minibus", "🚐"), ("minidisc", "💽"),
  ("moai", "🗿"), ("mobile_phone", "📱"), ("mobile_phone_off", "📴"),
  ("mobile_phone_with_arrow", "📲"), ("moldova", "🇲🇩"), ("monaco", "🇲🇨"),
  ("money-mouth_face", "🤑"), ("money__mouth_face", "🤑"), ("money_bag", "💰"),
  ("money_with_wings", "💸"), ("moneybag", "💰"), ("mongolia", "🇲🇳"), ("monkey", "🐒"),
  ("monkey_face", "🐵"), ("monorail", "🚝"), ("montenegro", "🇲🇪"), ("montserrat", "🇲🇸"),
  ("moon", "🌔"), ("moon_cake", "🥮"), ("moon_viewing_ceremony", "🎑"), ("morocco", "🇲🇦"),
  ("mortar_board", "🎓"), ("mosque", "🕌"), ("mosquito", "🦟"), ("motor_boat", "🛥"),
  ("motor_scooter", "🛵"), ("motorcycle", "🏍"), ("motorized_wheelchair", "🦼"),
  ("motorway", "🛣"), ("mount_fuji", "🗻"), ("mountain", "⛰"), ("mountain_bicyclist", "🚵"),
  ("mountain_cableway", "🚠"), ("mountain_railway", "🚞"), ("mouse", "🐭"), ("mouse2", "🐁"),
  ("mouse_face", "🐭"), ("mouth", "👄"), ("movie_camera", "🎥"), ("moyai", "🗿"),
  ("mozambique", "🇲🇿"), ("mrs._claus", "🤶"), ("mrs._claus_dark_skin_tone", "🤶🏿"),
  ("mrs._claus_light_skin_tone", "🤶🏻"), ("mrs._claus_medium-dark_skin_tone", "🤶🏾"),
  ("mrs._claus_medium-light_skin_tone", "🤶🏼"), ("mrs._claus_medium_skin_tone", "🤶🏽"),
  ("muscle", "💪"), ("mushroom", "🍄"), ("musical_keyboard", "🎹"), ("musical_note", "🎵"),
  ("musical_notes", "🎶"), ("musical_score", "🎼"), ("mute", "🔇"), ("muted_speaker", "🔇"),
  ("myanmar_(burma)", "🇲🇲")]

end Tablewright.Emoji
