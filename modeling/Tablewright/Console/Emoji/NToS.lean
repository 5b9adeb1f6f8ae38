/-!
# Emoji whose names begin with n to s
-/

namespace Tablewright.Emoji

/-- The emoji whose names begin with n to s, under their names. -/
def namesNToS : List (String × String) := [
  ("nail_care", "💅"), ("nail_polish", "💅"), ("nail_polish_dark_skin_tone", "💅🏿"),
  ("nail_polish_light_skin_tone", "💅🏻"), ("nail_polish_medium-dark_skin_tone", "💅🏾"),
  ("nail_polish_medium-light_skin_tone", "💅🏼"), ("nail_polish_medium_skin_tone", "💅🏽"),
  ("name_badge", "📛"), ("namibia", "🇳🇦"), ("national_park", "🏞"), ("nauru", "🇳🇷"),
  ("nauseated_face", "🤢"), ("nazar_amulet", "🧿"), ("necktie", "👔"),
  ("negative_squared_cross_mark", "❎"), ("nepal", "🇳🇵"), ("nerd_face", "🤓"),
  ("netherlands", "🇳🇱"), ("neutral_face", "😐"), ("new", "🆕"), ("new_button", "🆕"),
  ("new_caledonia", "🇳🇨"), ("new_moon", "🌑"), ("new_moon_face", "🌚"),
  ("new_moon_with_face", "🌚"), ("new_zealand", "🇳🇿"), ("newspaper", "📰"),
  ("next_track_button", "⏭"), ("ng", "🆖"), ("ng_button", "🆖"), ("nicaragua", "🇳🇮"),
  ("niger", "🇳🇪"), ("nigeria", "🇳🇬"), ("night_with_stars", "🌃"), ("nine", "9️⃣"),
  ("nine-thirty", "🕤"), ("nine_o’clock", "🕘"), ("niue", "🇳🇺"), ("no_bell", "🔕"),
  ("no_bicycles", "🚳"), ("no_entry", "⛔"), ("no_entry_sign", "🚫"), ("no_good", "🙅"),
  ("no_littering", "🚯"), ("no_mobile_phones", "📵"), ("no_mouth", "😶"),
  ("no_one_under_eighteen", "🔞"), ("no_pedestrians", "🚷"), ("no_smoking", "🚭"),
  ("non-potable_water", "🚱"), ("non__potable_water", "🚱"), ("norfolk_island", "🇳🇫"),
  ("north_korea", "🇰🇵"), ("northern_mariana_islands", "🇲🇵"), ("norway", "🇳🇴"),
  ("nose", "👃"), ("nose_dark_skin_tone", "👃🏿"), ("nose_light_skin_tone", "👃🏻"),
  ("nose_medium-dark_skin_tone", "👃🏾"), ("nose_medium-light_skin_tone", "👃🏼"),
  ("nose_medium_skin_tone", "👃🏽"), ("notebook", "📓"),
  ("notebook_with_decorative_cover", "📔"), ("notes", "🎶"), ("nut_and_bolt", "🔩"),
  ("o", "⭕"), ("o2", "🅾"), ("o_button_(blood_type)", "🅾"), ("ocean", "🌊"), ("octopus", "🐙"),
  ("oden", "🍢"), ("office", "🏢"), ("office_building", "🏢"), ("ogre", "👹"),
  ("oil_drum", "🛢"), ("ok", "🆗"), ("ok_button", "🆗"), ("ok_hand", "👌"),
  ("ok_hand_dark_skin_tone", "👌🏿"), ("ok_hand_light_skin_tone", "👌🏻"),
  ("ok_hand_medium-dark_skin_tone", "👌🏾"), ("ok_hand_medium-light_skin_tone", "👌🏼"),
  ("ok_hand_medium_skin_tone", "👌🏽"), ("ok_woman", "🙆"), ("old_key", "🗝"), ("old_man", "👴"),
  ("old_man_dark_skin_tone", "👴🏿"), ("old_man_light_skin_tone", "👴🏻"),
  ("old_man_medium-dark_skin_tone", "👴🏾"), ("old_man_medium-light_skin_tone", "👴🏼"),
  ("old_man_medium_skin_tone", "👴🏽"), ("old_woman", "👵"),
  ("old_woman_dark_skin_tone", "👵🏿"), ("old_woman_light_skin_tone", "👵🏻"),
  ("old_woman_medium-dark_skin_tone", "👵🏾"), ("old_woman_medium-light_skin_tone", "👵🏼"),
  ("old_woman_medium_skin_tone", "👵🏽"), ("older_adult", "🧓"),
  ("older_adult_dark_skin_tone", "🧓🏿"), ("older_adult_light_skin_tone", "🧓🏻"),
  ("older_adult_medium-dark_skin_tone", "🧓🏾"), ("older_adult_medium-light_skin_tone", "🧓🏼"),
  ("older_adult_medium_skin_tone", "🧓🏽"), ("older_man", "👴"), ("older_woman", "👵"),
  ("om", "🕉"), ("om_symbol", "🕉"), ("oman", "🇴🇲"), ("on", "🔛"), ("on!_arrow", "🔛"),
  ("oncoming_automobile", "🚘"), ("oncoming_bus", "🚍"), ("oncoming_fist", "👊"),
  ("oncoming_fist_dark_skin_tone", "👊🏿"), ("oncoming_fist_light_skin_tone", "👊🏻"),
  ("oncoming_fist_medium-dark_skin_tone", "👊🏾"),
  ("oncoming_fist_medium-light_skin_tone", "👊🏼"), ("oncoming_fist_medium_skin_tone", "👊🏽"),
  ("oncoming_police_car", "🚔"), ("oncoming_taxi", "🚖"), ("one", "1️⃣"),
  ("one-piece_swimsuit", "🩱"), ("one-thirty", "🕜"), ("one_o’clock", "🕐"), ("onion", "🧅"),
  ("open_book", "📖"), ("open_file_folder", "📂"), ("open_hands", "👐"),
  ("open_hands_dark_skin_tone", "👐🏿"), ("open_hands_light_skin_tone", "👐🏻"),
  ("open_hands_medium-dark_skin_tone", "👐🏾"), ("open_hands_medium-light_skin_tone", "👐🏼"),
  ("open_hands_medium_skin_tone", "👐🏽"), ("open_mailbox_with_lowered_flag", "📭"),
  ("open_mailbox_with_raised_flag", "📬"), ("open_mouth", "😮"), ("ophiuchus", "⛎"),
  ("optical_disk", "💿"), ("orange_book", "📙"), ("orange_circle", "🟠"),
  ("orange_heart", "🧡"), ("orange_square", "🟧"), ("orangutan", "🦧"),
  ("orthodox_cross", "☦"), ("otter", "🦦"), ("outbox_tray", "📤"), ("owl", "🦉"), ("ox", "🐂"),
  ("oyster", "🦪"), ("p_button", "🅿"), ("package", "📦"), ("page_facing_up", "📄"),
  ("page_with_curl", "📃"), ("pager", "📟"), ("paintbrush", "🖌"), ("pakistan", "🇵🇰"),
  ("palau", "🇵🇼"), ("palestinian_territories", "🇵🇸"), ("palm_tree", "🌴"),
  ("palms_up_together", "🤲"), ("palms_up_together_dark_skin_tone", "🤲🏿"),
  ("palms_up_together_light_skin_tone", "🤲🏻"),
  ("palms_up_together_medium-dark_skin_tone", "🤲🏾"),
  ("palms_up_together_medium-light_skin_tone", "🤲🏼"),
  ("palms_up_together_medium_skin_tone", "🤲🏽"), ("panama", "🇵🇦"), ("pancakes", "🥞"),
  ("panda_face", "🐼"), ("paperclip", "📎"), ("papua_new_guinea", "🇵🇬"), ("paraguay", "🇵🇾"),
  ("parking", "🅿"), ("parrot", "🦜"), ("part_alternation_mark", "〽"), ("partly_sunny", "⛅"),
  ("party_popper", "🎉"), ("partying_face", "🥳"), ("passenger_ship", "🛳"),
  ("passport_control", "🛂"), ("pause_button", "⏸"), ("paw_prints", "🐾"),
  ("peace_symbol", "☮"), ("peach", "🍑"), ("peacock", "🦚"), ("peanuts", "🥜"), ("pear", "🍐"),
  ("pen", "🖊"), ("pencil", "📝"), ("pencil2", "✏"), ("penguin", "🐧"), ("pensive", "😔"),
  ("pensive_face", "😔"), ("people_holding_hands", "🧑‍🤝‍🧑"), ("people_with_bunny_ears", "👯"),
  ("people_wrestling", "🤼"), ("performing_arts", "🎭"), ("persevere", "😣"),
  ("persevering_face", "😣"), ("person_biking", "🚴"), ("person_biking_dark_skin_tone", "🚴🏿"),
  ("person_biking_light_skin_tone", "🚴🏻"), ("person_biking_medium-dark_skin_tone", "🚴🏾"),
  ("person_biking_medium-light_skin_tone", "🚴🏼"), ("person_biking_medium_skin_tone", "🚴🏽"),
  ("person_bouncing_ball", "⛹"), ("person_bouncing_ball_dark_skin_tone", "⛹🏿"),
  ("person_bouncing_ball_light_skin_tone", "⛹🏻"),
  ("person_bouncing_ball_medium-dark_skin_tone", "⛹🏾"),
  ("person_bouncing_ball_medium-light_skin_tone", "⛹🏼"),
  ("person_bouncing_ball_medium_skin_tone", "⛹🏽"), ("person_bowing", "🙇"),
  ("person_bowing_dark_skin_tone", "🙇🏿"), ("person_bowing_light_skin_tone", "🙇🏻"),
  ("person_bowing_medium-dark_skin_tone", "🙇🏾"),
  ("person_bowing_medium-light_skin_tone", "🙇🏼"), ("person_bowing_medium_skin_tone", "🙇🏽"),
  ("person_cartwheeling", "🤸"), ("person_cartwheeling_dark_skin_tone", "🤸🏿"),
  ("person_cartwheeling_light_skin_tone", "🤸🏻"),
  ("person_cartwheeling_medium-dark_skin_tone", "🤸🏾"),
  ("person_cartwheeling_medium-light_skin_tone", "🤸🏼"),
  ("person_cartwheeling_medium_skin_tone", "🤸🏽"), ("person_climbing", "🧗"),
  ("person_climbing_dark_skin_tone", "🧗🏿"), ("person_climbing_light_skin_tone", "🧗🏻"),
  ("person_climbing_medium-dark_skin_tone", "🧗🏾"),
  ("person_climbing_medium-light_skin_tone", "🧗🏼"),
  ("person_climbing_medium_skin_tone", "🧗🏽"), ("person_facepalming", "🤦"),
  ("person_facepalming_dark_skin_tone", "🤦🏿"), ("person_facepalming_light_skin_tone", "🤦🏻"),
  ("person_facepalming_medium-dark_skin_tone", "🤦🏾"),
  ("person_facepalming_medium-light_skin_tone", "🤦🏼"),
  ("person_facepalming_medium_skin_tone", "🤦🏽"), ("person_fencing", "🤺"),
  ("person_frowning", "🙍"), ("person_frowning_dark_skin_tone", "🙍🏿"),
  ("person_frowning_light_skin_tone", "🙍🏻"),
  ("person_frowning_medium-dark_skin_tone", "🙍🏾"),
  ("person_frowning_medium-light_skin_tone", "🙍🏼"),
  ("person_frowning_medium_skin_tone", "🙍🏽"), ("person_gesturing_no", "🙅"),
  ("person_gesturing_no_dark_skin_tone", "🙅🏿"),
  ("person_gesturing_no_light_skin_tone", "🙅🏻"),
  ("person_gesturing_no_medium-dark_skin_tone", "🙅🏾"),
  ("person_gesturing_no_medium-light_skin_tone", "🙅🏼"),
  ("person_gesturing_no_medium_skin_tone", "🙅🏽"), ("person_gesturing_ok", "🙆"),
  ("person_gesturing_ok_dark_skin_tone", "🙆🏿"),
  ("person_gesturing_ok_light_skin_tone", "🙆🏻"),
  ("person_gesturing_ok_medium-dark_skin_tone", "🙆🏾"),
  ("person_gesturing_ok_medium-light_skin_tone", "🙆🏼"),
  ("person_gesturing_ok_medium_skin_tone", "🙆🏽"), ("person_getting_haircut", "💇"),
  ("person_getting_haircut_dark_skin_tone", "💇🏿"),
  ("person_getting_haircut_light_skin_tone", "💇🏻"),
  ("person_getting_haircut_medium-dark_skin_tone", "💇🏾"),
  ("person_getting_haircut_medium-light_skin_tone", "💇🏼"),
  ("person_getting_haircut_medium_skin_tone", "💇🏽"), ("person_getting_massage", "💆"),
  ("person_getting_massage_dark_skin_tone", "💆🏿"),
  ("person_getting_massage_light_skin_tone", "💆🏻"),
  ("person_getting_massage_medium-dark_skin_tone", "💆🏾"),
  ("person_getting_massage_medium-light_skin_tone", "💆🏼"),
  ("person_getting_massage_medium_skin_tone", "💆🏽"), ("person_golfing", "🏌"),
  ("person_golfing_dark_skin_tone", "🏌🏿"), ("person_golfing_light_skin_tone", "🏌🏻"),
  ("person_golfing_medium-dark_skin_tone", "🏌🏾"),
  ("person_golfing_medium-light_skin_tone", "🏌🏼"),
  ("person_golfing_medium_skin_tone", "🏌🏽"), ("person_in_bed", "🛌"),
  ("person_in_bed_dark_skin_tone", "🛌🏿"), ("person_in_bed_light_skin_tone", "🛌🏻"),
  ("person_in_bed_medium-dark_skin_tone", "🛌🏾"),
  ("person_in_bed_medium-light_skin_tone", "🛌🏼"), ("person_in_bed_medium_skin_tone", "🛌🏽"),
  ("person_in_lotus_position", "🧘"), ("person_in_lotus_position_dark_skin_tone", "🧘🏿"),
  ("person_in_lotus_position_light_skin_tone", "🧘🏻"),
  ("person_in_lotus_position_medium-dark_skin_tone", "🧘🏾"),
  ("person_in_lotus_position_medium-light_skin_tone", "🧘🏼"),
  ("person_in_lotus_position_medium_skin_tone", "🧘🏽"), ("person_in_steamy_room", "🧖"),
  ("person_in_steamy_room_dark_skin_tone", "🧖🏿"),
  ("person_in_steamy_room_light_skin_tone", "🧖🏻"),
  ("person_in_steamy_room_medium-dark_skin_tone", "🧖🏾"),
  ("person_in_steamy_room_medium-light_skin_tone", "🧖🏼"),
  ("person_in_steamy_room_medium_skin_tone", "🧖🏽"), ("person_juggling", "🤹"),
  ("person_juggling_dark_skin_tone", "🤹🏿"), ("person_juggling_light_skin_tone", "🤹🏻"),
  ("person_juggling_medium-dark_skin_tone", "🤹🏾"),
  ("person_juggling_medium-light_skin_tone", "🤹🏼"),
  ("person_juggling_medium_skin_tone", "🤹🏽"), ("person_kneeling", "🧎"),
  ("person_lifting_weights", "🏋"), ("person_lifting_weights_dark_skin_tone", "🏋🏿"),
  ("person_lifting_weights_light_skin_tone", "🏋🏻"),
  ("person_lifting_weights_medium-dark_skin_tone", "🏋🏾"),
  ("person_lifting_weights_medium-light_skin_tone", "🏋🏼"),
  ("person_lifting_weights_medium_skin_tone", "🏋🏽"), ("person_mountain_biking", "🚵"),
  ("person_mountain_biking_dark_skin_tone", "🚵🏿"),
  ("person_mountain_biking_light_skin_tone", "🚵🏻"),
  ("person_mountain_biking_medium-dark_skin_tone", "🚵🏾"),
  ("person_mountain_biking_medium-light_skin_tone", "🚵🏼"),
  ("person_mountain_biking_medium_skin_tone", "🚵🏽"), ("person_playing_handball", "🤾"),
  ("person_playing_handball_dark_skin_tone", "🤾🏿"),
  ("person_playing_handball_light_skin_tone", "🤾🏻"),
  ("person_playing_handball_medium-dark_skin_tone", "🤾🏾"),
  ("person_playing_handball_medium-light_skin_tone", "🤾🏼"),
  ("person_playing_handball_medium_skin_tone", "🤾🏽"), ("person_playing_water_polo", "🤽"),
  ("person_playing_water_polo_dark_skin_tone", "🤽🏿"),
  ("person_playing_water_polo_light_skin_tone", "🤽🏻"),
  ("person_playing_water_polo_medium-dark_skin_tone", "🤽🏾"),
  ("person_playing_water_polo_medium-light_skin_tone", "🤽🏼"),
  ("person_playing_water_polo_medium_skin_tone", "🤽🏽"), ("person_pouting", "🙎"),
  ("person_pouting_dark_skin_tone", "🙎🏿"), ("person_pouting_light_skin_tone", "🙎🏻"),
  ("person_pouting_medium-dark_skin_tone", "🙎🏾"),
  ("person_pouting_medium-light_skin_tone", "🙎🏼"),
  ("person_pouting_medium_skin_tone", "🙎🏽"), ("person_raising_hand", "🙋"),
  ("person_raising_hand_dark_skin_tone", "🙋🏿"),
  ("person_raising_hand_light_skin_tone", "🙋🏻"),
  ("person_raising_hand_medium-dark_skin_tone", "🙋🏾"),
  ("person_raising_hand_medium-light_skin_tone", "🙋🏼"),
  ("person_raising_hand_medium_skin_tone", "🙋🏽"), ("person_rowing_boat", "🚣"),
  ("person_rowing_boat_dark_skin_tone", "🚣🏿"), ("person_rowing_boat_light_skin_tone", "🚣🏻"),
  ("person_rowing_boat_medium-dark_skin_tone", "🚣🏾"),
  ("person_rowing_boat_medium-light_skin_tone", "🚣🏼"),
  ("person_rowing_boat_medium_skin_tone", "🚣🏽"), ("person_running", "🏃"),
  ("person_running_dark_skin_tone", "🏃🏿"), ("person_running_light_skin_tone", "🏃🏻"),
  ("person_running_medium-dark_skin_tone", "🏃🏾"),
  ("person_running_medium-light_skin_tone", "🏃🏼"),
  ("person_running_medium_skin_tone", "🏃🏽"), ("person_shrugging", "🤷"),
  ("person_shrugging_dark_skin_tone", "🤷🏿"), ("person_shrugging_light_skin_tone", "🤷🏻"),
  ("person_shrugging_medium-dark_skin_tone", "🤷🏾"),
  ("person_shrugging_medium-light_skin_tone", "🤷🏼"),
  ("person_shrugging_medium_skin_tone", "🤷🏽"), ("person_standing", "🧍"),
  ("person_surfing", "🏄"), ("person_surfing_dark_skin_tone", "🏄🏿"),
  ("person_surfing_light_skin_tone", "🏄🏻"), ("person_surfing_medium-dark_skin_tone", "🏄🏾"),
  ("person_surfing_medium-light_skin_tone", "🏄🏼"),
  ("person_surfing_medium_skin_tone", "🏄🏽"), ("person_swimming", "🏊"),
  ("person_swimming_dark_skin_tone", "🏊🏿"), ("person_swimming_light_skin_tone", "🏊🏻"),
  ("person_swimming_medium-dark_skin_tone", "🏊🏾"),
  ("person_swimming_medium-light_skin_tone", "🏊🏼"),
  ("person_swimming_medium_skin_tone", "🏊🏽"), ("person_taking_bath", "🛀"),
  ("person_taking_bath_dark_skin_tone", "🛀🏿"), ("person_taking_bath_light_skin_tone", "🛀🏻"),
  ("person_taking_bath_medium-dark_skin_tone", "🛀🏾"),
  ("person_taking_bath_medium-light_skin_tone", "🛀🏼"),
  ("person_taking_bath_medium_skin_tone", "🛀🏽"), ("person_tipping_hand", "💁"),
  ("person_tipping_hand_dark_skin_tone", "💁🏿"),
  ("person_tipping_hand_light_skin_tone", "💁🏻"),
  ("person_tipping_hand_medium-dark_skin_tone", "💁🏾"),
  ("person_tipping_hand_medium-light_skin_tone", "💁🏼"),
  ("person_tipping_hand_medium_skin_tone", "💁🏽"), ("person_walking", "🚶"),
  ("person_walking_dark_skin_tone", "🚶🏿"), ("person_walking_light_skin_tone", "🚶🏻"),
  ("person_walking_medium-dark_skin_tone", "🚶🏾"),
  ("person_walking_medium-light_skin_tone", "🚶🏼"),
  ("person_walking_medium_skin_tone", "🚶🏽"), ("person_wearing_turban", "👳"),
  ("person_wearing_turban_dark_skin_tone", "👳🏿"),
  ("person_wearing_turban_light_skin_tone", "👳🏻"),
  ("person_wearing_turban_medium-dark_skin_tone", "👳🏾"),
  ("person_wearing_turban_medium-light_skin_tone", "👳🏼"),
  ("person_wearing_turban_medium_skin_tone", "👳🏽"), ("person_with_ball", "⛹"),
  ("person_with_blond_hair", "👱"), ("person_with_pouting_face", "🙎"), ("peru", "🇵🇪"),
  ("petri_dish", "🧫"), ("philippines", "🇵🇭"), ("phone", "☎"), ("pick", "⛏"), ("pie", "🥧"),
  ("pig", "🐷"), ("pig2", "🐖"), ("pig_face", "🐷"), ("pig_nose", "🐽"), ("pile_of_poo", "💩"),
  ("pill", "💊"), ("pinching_hand", "🤏"), ("pine_decoration", "🎍"), ("pineapple", "🍍"),
  ("ping_pong", "🏓"), ("pirate_flag", "🏴‍☠️"), ("pisces", "♓"), ("pistol", "🔫"),
  ("pitcairn_islands", "🇵🇳"), ("pizza", "🍕"), ("place_of_worship", "🛐"),
  ("play_button", "▶"), ("play_or_pause_button", "⏯"), ("pleading_face", "🥺"),
  ("point_down", "👇"), ("point_left", "👈"), ("point_right", "👉"), ("point_up", "☝"),
  ("point_up_2", "👆"), ("poland", "🇵🇱"), ("police_car", "🚓"), ("police_car_light", "🚨"),
  ("police_officer", "👮"), ("police_officer_dark_skin_tone", "👮🏿"),
  ("police_officer_light_skin_tone", "👮🏻"), ("police_officer_medium-dark_skin_tone", "👮🏾"),
  ("police_officer_medium-light_skin_tone", "👮🏼"),
  ("police_officer_medium_skin_tone", "👮🏽"), ("poodle", "🐩"), ("pool_8_ball", "🎱"),
  ("poop", "💩"), ("popcorn", "🍿"), ("portugal", "🇵🇹"), ("post_office", "🏣"),
  ("postal_horn", "📯"), ("postbox", "📮"), ("pot_of_food", "🍲"), ("potable_water", "🚰"),
  ("potato", "🥔"), ("pouch", "👝"), ("poultry_leg", "🍗"), ("pound", "💷"),
  ("pound_banknote", "💷"), ("pouting_cat", "😾"), ("pouting_cat_face", "😾"),
  ("pouting_face", "😡"), ("pray", "🙏"), ("prayer_beads", "📿"), ("pregnant_woman", "🤰"),
  ("pregnant_woman_dark_skin_tone", "🤰🏿"), ("pregnant_woman_light_skin_tone", "🤰🏻"),
  ("pregnant_woman_medium-dark_skin_tone", "🤰🏾"),
  ("pregnant_woman_medium-light_skin_tone", "🤰🏼"),
  ("pregnant_woman_medium_skin_tone", "🤰🏽"), ("pretzel", "🥨"), ("prince", "🤴"),
  ("prince_dark_skin_tone", "🤴🏿"), ("prince_light_skin_tone", "🤴🏻"),
  ("prince_medium-dark_skin_tone", "🤴🏾"), ("prince_medium-light_skin_tone", "🤴🏼"),
  ("prince_medium_skin_tone", "🤴🏽"), ("princess", "👸"), ("princess_dark_skin_tone", "👸🏿"),
  ("princess_light_skin_tone", "👸🏻"), ("princess_medium-dark_skin_tone", "👸🏾"),
  ("princess_medium-light_skin_tone", "👸🏼"), ("princess_medium_skin_tone", "👸🏽"),
  ("printer", "🖨"), ("probing_cane", "🦯"), ("prohibited", "🚫"), ("puerto_rico", "🇵🇷"),
  ("punch", "👊"), ("purple_circle", "🟣"), ("purple_heart", "💜"), ("purple_square", "🟪"),
  ("purse", "👛"), ("pushpin", "📌"), ("put_litter_in_its_place", "🚮"), ("qatar", "🇶🇦"),
  ("question", "❓"), ("question_mark", "❓"), ("rabbit", "🐰"), ("rabbit2", "🐇"),
  ("rabbit_face", "🐰"), ("raccoon", "🦝"), ("racehorse", "🐎"), ("racing_car", "🏎"),
  ("racing_motorcycle", "🏍"), ("radio", "📻"), ("radio_button", "🔘"), ("radioactive", "☢"),
  ("radioactive_sign", "☢"), ("rage", "😡"), ("railway_car", "🚃"), ("railway_track", "🛤"),
  ("rainbow", "🌈"), ("rainbow_flag", "🏳️‍🌈"), ("raised_back_of_hand", "🤚"),
  ("raised_back_of_hand_dark_skin_tone", "🤚🏿"),
  ("raised_back_of_hand_light_skin_tone", "🤚🏻"),
  ("raised_back_of_hand_medium-dark_skin_tone", "🤚🏾"),
  ("raised_back_of_hand_medium-light_skin_tone", "🤚🏼"),
  ("raised_back_of_hand_medium_skin_tone", "🤚🏽"), ("raised_fist", "✊"),
  ("raised_fist_dark_skin_tone", "✊🏿"), ("raised_fist_light_skin_tone", "✊🏻"),
  ("raised_fist_medium-dark_skin_tone", "✊🏾"), ("raised_fist_medium-light_skin_tone", "✊🏼"),
  ("raised_fist_medium_skin_tone", "✊🏽"), ("raised_hand", "✋"),
  ("raised_hand_dark_skin_tone", "✋🏿"), ("raised_hand_light_skin_tone", "✋🏻"),
  ("raised_hand_medium-dark_skin_tone", "✋🏾"), ("raised_hand_medium-light_skin_tone", "✋🏼"),
  ("raised_hand_medium_skin_tone", "✋🏽"), ("raised_hand_with_fingers_splayed", "🖐"),
  ("raised_hand_with_part_between_middle_and_ring_fingers", "🖖"), ("raised_hands", "🙌"),
  ("raising_hand", "🙋"), ("raising_hands", "🙌"), ("raising_hands_dark_skin_tone", "🙌🏿"),
  ("raising_hands_light_skin_tone", "🙌🏻"), ("raising_hands_medium-dark_skin_tone", "🙌🏾"),
  ("raising_hands_medium-light_skin_tone", "🙌🏼"), ("raising_hands_medium_skin_tone", "🙌🏽"),
  ("ram", "🐏"), ("ramen", "🍜"), ("rat", "🐀"), ("razor", "🪒"), ("receipt", "🧾"),
  ("record_button", "⏺"), ("recycle", "♻"), ("recycling_symbol", "♻"),
  ("red-haired_man", "👨‍🦰"), ("red-haired_woman", "👩‍🦰"), ("red_apple", "🍎"),
  ("red_car", "🚗"), ("red_circle", "🔴"), ("red_envelope", "🧧"), ("red_hair", "🦰"),
  ("red_heart", "❤"), ("red_paper_lantern", "🏮"), ("red_square", "🟥"),
  ("red_triangle_pointed_down", "🔻"), ("red_triangle_pointed_up", "🔺"),
  ("regional_indicator_a", "🇦"), ("regional_indicator_b", "🇧"),
  ("regional_indicator_c", "🇨"), ("regional_indicator_d", "🇩"),
  ("regional_indicator_e", "🇪"), ("regional_indicator_f", "🇫"),
  ("regional_indicator_g", "🇬"), ("regional_indicator_h", "🇭"),
  ("regional_indicator_i", "🇮"), ("regional_indicator_j", "🇯"),
  ("regional_indicator_k", "🇰"), ("regional_indicator_l", "🇱"),
  ("regional_indicator_m", "🇲"), ("regional_indicator_n", "🇳"),
  ("regional_indicator_o", "🇴"), ("regional_indicator_p", "🇵"),
  ("regional_indicator_q", "🇶"), ("regional_indicator_r", "🇷"),
  ("regional_indicator_s", "🇸"), ("regional_indicator_symbol_letter_a", "🇦"),
  ("regional_indicator_symbol_letter_b", "🇧"), ("regional_indicator_symbol_letter_c", "🇨"),
  ("regional_indicator_symbol_letter_d", "🇩"), ("regional_indicator_symbol_letter_e", "🇪"),
  ("regional_indicator_symbol_letter_f", "🇫"), ("regional_indicator_symbol_letter_g", "🇬"),
  ("regional_indicator_symbol_letter_h", "🇭"), ("regional_indicator_symbol_letter_i", "🇮"),
  ("regional_indicator_symbol_letter_j", "🇯"), ("regional_indicator_symbol_letter_k", "🇰"),
  ("regional_indicator_symbol_letter_l", "🇱"), ("regional_indicator_symbol_letter_m", "🇲"),
  ("regional_indicator_symbol_letter_n", "🇳"), ("regional_indicator_symbol_letter_o", "🇴"),
  ("regional_indicator_symbol_letter_p", "🇵"), ("regional_indicator_symbol_letter_q", "🇶"),
  ("regional_indicator_symbol_letter_r", "🇷"), ("regional_indicator_symbol_letter_s", "🇸"),
  ("regional_indicator_symbol_letter_t", "🇹"), ("regional_indicator_symbol_letter_u", "🇺"),
  ("regional_indicator_symbol_letter_v", "🇻"), ("regional_indicator_symbol_letter_w", "🇼"),
  ("regional_indicator_symbol_letter_x", "🇽"), ("regional_indicator_symbol_letter_y", "🇾"),
  ("regional_indicator_symbol_letter_z", "🇿"), ("regional_indicator_t", "🇹"),
  ("regional_indicator_u", "🇺"), ("regional_indicator_v", "🇻"),
  ("regional_indicator_w", "🇼"), ("regional_indicator_x", "🇽"),
  ("regional_indicator_y", "🇾"), ("regional_indicator_z", "🇿"), ("registered", "®"),
  ("relaxed", "☺"), ("relieved", "😌"), ("relieved_face", "😌"), ("reminder_ribbon", "🎗"),
  ("repeat", "🔁"), ("repeat_button", "🔁"), ("repeat_one", "🔂"),
  ("repeat_single_button", "🔂"), ("rescue_worker’s_helmet", "⛑"), ("restroom", "🚻"),
  ("reverse_button", "◀"), ("reversed_hand_with_middle_finger_extended", "🖕"),
  ("revolving_hearts", "💞"), ("rewind", "⏪"), ("rhinoceros", "🦏"), ("ribbon", "🎀"),
  ("rice", "🍚"), ("rice_ball", "🍙"), ("rice_cracker", "🍘"), ("rice_scene", "🎑"),
  ("right-facing_fist", "🤜"), ("right-facing_fist_dark_skin_tone", "🤜🏿"),
  ("right-facing_fist_light_skin_tone", "🤜🏻"),
  ("right-facing_fist_medium-dark_skin_tone", "🤜🏾"),
  ("right-facing_fist_medium-light_skin_tone", "🤜🏼"),
  ("right-facing_fist_medium_skin_tone", "🤜🏽"), ("right_anger_bubble", "🗯"),
  ("right_arrow", "➡"), ("right_arrow_curving_down", "⤵"),
  ("right_arrow_curving_left", "↩"), ("right_arrow_curving_up", "⤴"), ("ring", "💍"),
  ("ringed_planet", "🪐"), ("roasted_sweet_potato", "🍠"), ("robot", "🤖"),
  ("robot_face", "🤖"), ("rocket", "🚀"), ("roll_of_paper", "🧻"),
  ("rolled-up_newspaper", "🗞"), ("rolled__up_newspaper", "🗞"), ("roller_coaster", "🎢"),
  ("rolling_on_the_floor_laughing", "🤣"), ("romania", "🇷🇴"), ("rooster", "🐓"),
  ("rose", "🌹"), ("rosette", "🏵"), ("rotating_light", "🚨"), ("round_pushpin", "📍"),
  ("rowboat", "🚣"), ("rugby_football", "🏉"), ("runner", "🏃"), ("running", "🏃"),
  ("running_shirt", "🎽"), ("running_shirt_with_sash", "🎽"), ("running_shoe", "👟"),
  ("russia", "🇷🇺"), ("rwanda", "🇷🇼"), ("réunion", "🇷🇪"), ("sa", "🈂"),
  ("sad_but_relieved_face", "😥"), ("safety_pin", "🧷"), ("safety_vest", "🦺"),
  ("sagittarius", "♐"), ("sailboat", "⛵"), ("sake", "🍶"), ("salt", "🧂"), ("samoa", "🇼🇸"),
  ("san_marino", "🇸🇲"), ("sandal", "👡"), ("sandwich", "🥪"), ("santa", "🎅"),
  ("santa_claus", "🎅"), ("santa_claus_dark_skin_tone", "🎅🏿"),
  ("santa_claus_light_skin_tone", "🎅🏻"), ("santa_claus_medium-dark_skin_tone", "🎅🏾"),
  ("santa_claus_medium-light_skin_tone", "🎅🏼"), ("santa_claus_medium_skin_tone", "🎅🏽"),
  ("sari", "🥻"), ("satellite", "📡"), ("satellite_antenna", "📡"), ("satisfied", "😆"),
  ("saudi_arabia", "🇸🇦"), ("sauropod", "🦕"), ("saxophone", "🎷"), ("scales", "⚖"),
  ("scarf", "🧣"), ("school", "🏫"), ("school_backpack", "🎒"), ("school_satchel", "🎒"),
  ("scissors", "✂"), ("scorpio", "♏"), ("scorpion", "🦂"), ("scorpius", "♏"),
  ("scotland", "🏴󠁧󠁢󠁳󠁣󠁴󠁿"), ("scream", "😱"), ("scream_cat", "🙀"), ("scroll", "📜"),
  ("seat", "💺"), ("secret", "㊙"), ("see-no-evil_monkey", "🙈"), ("see_no_evil", "🙈"),
  ("seedling", "🌱"), ("selfie", "🤳"), ("selfie_dark_skin_tone", "🤳🏿"),
  ("selfie_light_skin_tone", "🤳🏻"), ("selfie_medium-dark_skin_tone", "🤳🏾"),
  ("selfie_medium-light_skin_tone", "🤳🏼"), ("selfie_medium_skin_tone", "🤳🏽"),
  ("senegal", "🇸🇳"), ("serbia", "🇷🇸"), ("service_dog", "🐕‍🦺"), ("seven", "7️⃣"),
  ("seven-thirty", "🕢"), ("seven_o’clock", "🕖"), ("seychelles", "🇸🇨"),
  ("shallow_pan_of_food", "🥘"), ("shamrock", "☘"), ("shark", "🦈"), ("shaved_ice", "🍧"),
  ("sheaf_of_rice", "🌾"), ("sheep", "🐑"), ("shell", "🐚"), ("shield", "🛡"),
  ("shinto_shrine", "⛩"), ("ship", "🚢"), ("shirt", "👕"), ("shit", "💩"), ("shoe", "👞"),
  ("shooting_star", "🌠"), ("shopping_bags", "🛍"), ("shopping_cart", "🛒"),
  ("shortcake", "🍰"), ("shorts", "🩳"), ("shower", "🚿"), ("shrimp", "🦐"),
  ("shuffle_tracks_button", "🔀"), ("shushing_face", "🤫"), ("sierra_leone", "🇸🇱"),
  ("sign_of_the_horns", "🤘"), ("sign_of_the_horns_dark_skin_tone", "🤘🏿"),
  ("sign_of_the_horns_light_skin_tone", "🤘🏻"),
  ("sign_of_the_horns_medium-dark_skin_tone", "🤘🏾"),
  ("sign_of_the_horns_medium-light_skin_tone", "🤘🏼"),
  ("sign_of_the_horns_medium_skin_tone", "🤘🏽"), ("signal_strength", "📶"),
  ("singapore", "🇸🇬"), ("sint_maarten", "🇸🇽"), ("six", "6️⃣"), ("six-thirty", "🕡"),
  ("six_o’clock", "🕕"), ("six_pointed_star", "🔯"), ("skateboard", "🛹"), ("ski", "🎿"),
  ("skier", "⛷"), ("skis", "🎿"), ("skull", "💀"), ("skull_and_crossbones", "☠"),
  ("skunk", "🦨"), ("sled", "🛷"), ("sleeping", "😴"), ("sleeping_accommodation", "🛌"),
  ("sleeping_face", "😴"), ("sleepy", "😪"), ("sleepy_face", "😪"), ("sleuth_or_spy", "🕵"),
  ("slightly_frowning_face", "🙁"), ("slightly_smiling_face", "🙂"), ("slot_machine", "🎰"),
  ("sloth", "🦥"), ("slovakia", "🇸🇰"), ("slovenia", "🇸🇮"), ("small_airplane", "🛩"),
  ("small_blue_diamond", "🔹"), ("small_orange_diamond", "🔸"), ("small_red_triangle", "🔺"),
  ("small_red_triangle_down", "🔻"), ("smile", "😄"), ("smile_cat", "😸"), ("smiley", "😃"),
  ("smiley_cat", "😺"), ("smiling_cat_face_with_heart-eyes", "😻"), ("smiling_face", "☺"),
  ("smiling_face_with_3_hearts", "🥰"), ("smiling_face_with_halo", "😇"),
  ("smiling_face_with_heart-eyes", "😍"), ("smiling_face_with_horns", "😈"),
  ("smiling_face_with_smiling_eyes", "😊"), ("smiling_face_with_sunglasses", "😎"),
  ("smiling_imp", "😈"), ("smirk", "😏"), ("smirk_cat", "😼"), ("smirking_face", "😏"),
  ("smoking", "🚬"), ("snail", "🐌"), ("snake", "🐍"), ("sneezing_face", "🤧"),
  ("snow-capped_mountain", "🏔"), ("snow_capped_mountain", "🏔"), ("snowboarder", "🏂"),
  ("snowboarder_dark_skin_tone", "🏂🏿"), ("snowboarder_light_skin_tone", "🏂🏻"),
  ("snowboarder_medium-dark_skin_tone", "🏂🏾"), ("snowboarder_medium-light_skin_tone", "🏂🏼"),
  ("snowboarder_medium_skin_tone", "🏂🏽"), ("snowflake", "❄"), ("snowman", "☃"),
  ("snowman_without_snow", "⛄"), ("soap", "🧼"), ("sob", "😭"), ("soccer", "⚽"),
  ("soccer_ball", "⚽"), ("socks", "🧦"), ("soft_ice_cream", "🍦"), ("softball", "🥎"),
  ("solomon_islands", "🇸🇧"), ("somalia", "🇸🇴"), ("soon", "🔜"), ("soon_arrow", "🔜"),
  ("sos", "🆘"), ("sos_button", "🆘"), ("sound", "🔉"), ("south_africa", "🇿🇦"),
  ("south_georgia_&_south_sandwich_islands", "🇬🇸"), ("south_korea", "🇰🇷"),
  ("south_sudan", "🇸🇸"), ("space_invader", "👾"), ("spade_suit", "♠"), ("spades", "♠"),
  ("spaghetti", "🍝"), ("spain", "🇪🇸"), ("sparkle", "❇"), ("sparkler", "🎇"),
  ("sparkles", "✨"), ("sparkling_heart", "💖"), ("speak-no-evil_monkey", "🙊"),
  ("speak_no_evil", "🙊"), ("speaker", "🔈"), ("speaker_high_volume", "🔊"),
  ("speaker_low_volume", "🔈"), ("speaker_medium_volume", "🔉"), ("speaking_head", "🗣"),
  ("speaking_head_in_silhouette", "🗣"), ("speech_balloon", "💬"), ("speedboat", "🚤"),
  ("spider", "🕷"), ("spider_web", "🕸"), ("spiral_calendar", "🗓"),
  ("spiral_calendar_pad", "🗓"), ("spiral_note_pad", "🗒"), ("spiral_notepad", "🗒"),
  ("spiral_shell", "🐚"), ("sponge", "🧽"), ("spoon", "🥄"), ("sport_utility_vehicle", "🚙"),
  ("sports_medal", "🏅"), ("spouting_whale", "🐳"), ("squid", "🦑"),
  ("squinting_face_with_tongue", "😝"), ("sri_lanka", "🇱🇰"), ("st._barthélemy", "🇧🇱"),
  ("st._helena", "🇸🇭"), ("st._kitts_&_nevis", "🇰🇳"), ("st._lucia", "🇱🇨"),
  ("st._martin", "🇲🇫"), ("st._pierre_&_miquelon", "🇵🇲"), ("st._vincent_&_grenadines", "🇻🇨"),
  ("stadium", "🏟"), ("star", "⭐"), ("star-struck", "🤩"), ("star2", "🌟"),
  ("star_and_crescent", "☪"), ("star_of_david", "✡"), ("stars", "🌠"), ("station", "🚉"),
  ("statue_of_liberty", "🗽"), ("steam_locomotive", "🚂"), ("steaming_bowl", "🍜"),
  ("stethoscope", "🩺"), ("stew", "🍲"), ("stop_button", "⏹"), ("stop_sign", "🛑"),
  ("stopwatch", "⏱"), ("straight_ruler", "📏"), ("strawberry", "🍓"),
  ("stuck_out_tongue", "😛"), ("stuck_out_tongue_closed_eyes", "😝"),
  ("stuck_out_tongue_winking_eye", "😜"), ("studio_microphone", "🎙"),
  ("stuffed_flatbread", "🥙"), ("sudan", "🇸🇩"), ("sun", "☀"), ("sun_behind_cloud", "⛅"),
  ("sun_behind_large_cloud", "🌥"), ("sun_behind_rain_cloud", "🌦"),
  ("sun_behind_small_cloud", "🌤"), ("sun_with_face", "🌞"), ("sunflower", "🌻"),
  ("sunglasses", "😎"), ("sunny", "☀"), ("sunrise", "🌅"), ("sunrise_over_mountains", "🌄"),
  ("sunset", "🌇"), ("superhero", "🦸"), ("supervillain", "🦹"), ("surfer", "🏄"),
  ("suriname", "🇸🇷"), ("sushi", "🍣"), ("suspension_railway", "🚟"),
  ("svalbard_&_jan_mayen", "🇸🇯"), ("swan", "🦢"), ("swaziland", "🇸🇿"), ("sweat", "😓"),
  ("sweat_droplets", "💦"), ("sweat_drops", "💦"), ("sweat_smile", "😅"), ("sweden", "🇸🇪"),
  ("sweet_potato", "🍠"), ("swimmer", "🏊"), ("switzerland", "🇨🇭"), ("symbols", "🔣"),
  ("synagogue", "🕍"), ("syria", "🇸🇾"), ("syringe", "💉"), ("são_tomé_&_príncipe", "🇸🇹")]

end Tablewright.Emoji
