/-! Names of the emoji for sky, plants, food, pastimes, places and animals. -/

namespace SourceLint.Emoji

/-- Sky, weather and landscapes. -/
def sky : List (String × String) :=
  [("cyclone", "🌀"), ("foggy", "🌁"), ("closed_umbrella", "🌂"), ("night_with_stars", "🌃"),
   ("sunrise_over_mountains", "🌄"), ("sunrise", "🌅"), ("city_sunset", "🌆"),
   ("cityscape_at_dusk", "🌆"), ("city_sunrise", "🌇"), ("sunset", "🌇"), ("rainbow", "🌈"),
   ("bridge_at_night", "🌉"), ("ocean", "🌊"), ("water_wave", "🌊"), ("volcano", "🌋"),
   ("milky_way", "🌌"), ("earth_africa", "🌍"), ("globe_showing_europe-africa", "🌍"),
   ("earth_americas", "🌎"), ("globe_showing_americas", "🌎"), ("earth_asia", "🌏"),
   ("globe_showing_asia-australia", "🌏"), ("globe_with_meridians", "🌐"), ("new_moon", "🌑"),
   ("waxing_crescent_moon", "🌒"), ("first_quarter_moon", "🌓"), ("moon", "🌔"),
   ("waxing_gibbous_moon", "🌔"), ("full_moon", "🌕"), ("waning_gibbous_moon", "🌖"),
   ("last_quarter_moon", "🌗"), ("waning_crescent_moon", "🌘"), ("crescent_moon", "🌙"),
   ("new_moon_face", "🌚"), ("new_moon_with_face", "🌚"), ("first_quarter_moon_face", "🌛"),
   ("first_quarter_moon_with_face", "🌛"), ("last_quarter_moon_face", "🌜"),
   ("last_quarter_moon_with_face", "🌜"), ("full_moon_face", "🌝"), ("full_moon_with_face", "🌝"),
   ("sun_with_face", "🌞"), ("glowing_star", "🌟"), ("star2", "🌟"), ("shooting_star", "🌠"),
   ("stars", "🌠"), ("thermometer", "🌡"), ("sun_behind_small_cloud", "🌤"),
   ("white_sun_with_small_cloud", "🌤"), ("sun_behind_large_cloud", "🌥"),
   ("white_sun_behind_cloud", "🌥"), ("sun_behind_rain_cloud", "🌦"),
   ("white_sun_behind_cloud_with_rain", "🌦"), ("cloud_with_rain", "🌧"), ("cloud_with_snow", "🌨"),
   ("cloud_with_lightning", "🌩"), ("cloud_with_tornado", "🌪"), ("tornado", "🌪"), ("fog", "🌫"),
   ("wind_blowing_face", "🌬"), ("wind_face", "🌬")]

/-- Snacks, plants and fruit. -/
def plants : List (String × String) :=
  [("hot_dog", "🌭"), ("taco", "🌮"), ("burrito", "🌯"), ("chestnut", "🌰"), ("seedling", "🌱"),
   ("evergreen_tree", "🌲"), ("deciduous_tree", "🌳"), ("palm_tree", "🌴"), ("cactus", "🌵"),
   ("hot_pepper", "🌶"), ("tulip", "🌷"), ("cherry_blossom", "🌸"), ("rose", "🌹"), ("hibiscus", "🌺"),
   ("sunflower", "🌻"), ("blossom", "🌼"), ("corn", "🌽"), ("ear_of_corn", "🌽"),
   ("ear_of_rice", "🌾"), ("sheaf_of_rice", "🌾"), ("herb", "🌿"), ("four_leaf_clover", "🍀"),
   ("maple_leaf", "🍁"), ("fallen_leaf", "🍂"), ("leaf_fluttering_in_wind", "🍃"), ("leaves", "🍃"),
   ("mushroom", "🍄"), ("tomato", "🍅"), ("eggplant", "🍆"), ("grapes", "🍇"), ("melon", "🍈"),
   ("watermelon", "🍉"), ("tangerine", "🍊"), ("lemon", "🍋"), ("banana", "🍌"), ("pineapple", "🍍"),
   ("apple", "🍎"), ("red_apple", "🍎"), ("green_apple", "🍏"), ("pear", "🍐"), ("peach", "🍑"),
   ("cherries", "🍒"), ("strawberry", "🍓")]

/-- Food and drink. -/
def food : List (String × String) :=
  [("hamburger", "🍔"), ("pizza", "🍕"), ("meat_on_bone", "🍖"), ("poultry_leg", "🍗"),
   ("rice_cracker", "🍘"), ("rice_ball", "🍙"), ("cooked_rice", "🍚"), ("rice", "🍚"), ("curry", "🍛"),
   ("curry_rice", "🍛"), ("ramen", "🍜"), ("steaming_bowl", "🍜"), ("spaghetti", "🍝"),
   ("bread", "🍞"), ("french_fries", "🍟"), ("fries", "🍟"), ("roasted_sweet_potato", "🍠"),
   ("sweet_potato", "🍠"), ("dango", "🍡"), ("oden", "🍢"), ("sushi", "🍣"), ("fried_shrimp", "🍤"),
   ("fish_cake", "🍥"), ("fish_cake_with_swirl", "🍥"), ("icecream", "🍦"), ("soft_ice_cream", "🍦"),
   ("shaved_ice", "🍧"), ("ice_cream", "🍨"), ("doughnut", "🍩"), ("cookie", "🍪"),
   ("chocolate_bar", "🍫"), ("candy", "🍬"), ("lollipop", "🍭"), ("custard", "🍮"),
   ("honey_pot", "🍯"), ("cake", "🍰"), ("shortcake", "🍰"), ("bento", "🍱"), ("bento_box", "🍱"),
   ("pot_of_food", "🍲"), ("stew", "🍲"), ("cooking", "🍳"), ("egg", "🍳"), ("fork_and_knife", "🍴"),
   ("tea", "🍵"), ("teacup_without_handle", "🍵"), ("sake", "🍶"), ("wine_glass", "🍷"),
   ("cocktail", "🍸"), ("cocktail_glass", "🍸"), ("tropical_drink", "🍹"), ("beer", "🍺"),
   ("beer_mug", "🍺"), ("beers", "🍻"), ("clinking_beer_mugs", "🍻"), ("baby_bottle", "🍼"),
   ("fork_and_knife_with_plate", "🍽"), ("bottle_with_popping_cork", "🍾"), ("popcorn", "🍿")]

/-- Feasts, arts and sports. -/
def pastimes : List (String × String) :=
  [("ribbon", "🎀"), ("gift", "🎁"), ("wrapped_gift", "🎁"), ("birthday", "🎂"),
   ("birthday_cake", "🎂"), ("jack-o-lantern", "🎃"), ("jack_o_lantern", "🎃"),
   ("christmas_tree", "🎄"), ("santa", "🎅"), ("fireworks", "🎆"), ("sparkler", "🎇"),
   ("balloon", "🎈"), ("party_popper", "🎉"), ("tada", "🎉"), ("confetti_ball", "🎊"),
   ("tanabata_tree", "🎋"), ("crossed_flags", "🎌"), ("bamboo", "🎍"), ("pine_decoration", "🎍"),
   ("dolls", "🎎"), ("japanese_dolls", "🎎"), ("carp_streamer", "🎏"), ("flags", "🎏"),
   ("wind_chime", "🎐"), ("moon_viewing_ceremony", "🎑"), ("rice_scene", "🎑"),
   ("school_backpack", "🎒"), ("school_satchel", "🎒"), ("graduation_cap", "🎓"),
   ("mortar_board", "🎓"), ("military_medal", "🎖"), ("reminder_ribbon", "🎗"),
   ("studio_microphone", "🎙"), ("level_slider", "🎚"), ("control_knobs", "🎛"),
   ("film_frames", "🎞"), ("admission_tickets", "🎟"), ("carousel_horse", "🎠"),
   ("ferris_wheel", "🎡"), ("roller_coaster", "🎢"), ("fishing_pole", "🎣"),
   ("fishing_pole_and_fish", "🎣"), ("microphone", "🎤"), ("movie_camera", "🎥"), ("cinema", "🎦"),
   ("headphone", "🎧"), ("headphones", "🎧"), ("art", "🎨"), ("artist_palette", "🎨"),
   ("top_hat", "🎩"), ("tophat", "🎩"), ("circus_tent", "🎪"), ("ticket", "🎫"), ("clapper", "🎬"),
   ("clapper_board", "🎬"), ("performing_arts", "🎭"), ("video_game", "🎮"), ("dart", "🎯"),
   ("direct_hit", "🎯"), ("slot_machine", "🎰"), ("8ball", "🎱"), ("pool_8_ball", "🎱"),
   ("game_die", "🎲"), ("bowling", "🎳"), ("flower_playing_cards", "🎴"), ("musical_note", "🎵"),
   ("musical_notes", "🎶"), ("notes", "🎶"), ("saxophone", "🎷"), ("guitar", "🎸"),
   ("musical_keyboard", "🎹"), ("trumpet", "🎺"), ("violin", "🎻"), ("musical_score", "🎼"),
   ("running_shirt", "🎽"), ("running_shirt_with_sash", "🎽"), ("tennis", "🎾"), ("ski", "🎿"),
   ("skis", "🎿"), ("basketball", "🏀"), ("checkered_flag", "🏁"), ("chequered_flag", "🏁"),
   ("runner", "🏃"), ("running", "🏃"), ("surfer", "🏄"), ("sports_medal", "🏅"), ("trophy", "🏆"),
   ("american_football", "🏈"), ("football", "🏈"), ("rugby_football", "🏉"), ("swimmer", "🏊"),
   ("weight_lifter", "🏋"), ("golfer", "🏌"), ("motorcycle", "🏍"), ("racing_motorcycle", "🏍"),
   ("racing_car", "🏎"), ("cricket_bat_and_ball", "🏏"), ("cricket_game", "🏏"), ("volleyball", "🏐"),
   ("field_hockey", "🏑"), ("field_hockey_stick_and_ball", "🏑"), ("ice_hockey", "🏒"),
   ("ice_hockey_stick_and_puck", "🏒"), ("ping_pong", "🏓"), ("table_tennis_paddle_and_ball", "🏓")]

/-- Places, buildings and flags. -/
def places : List (String × String) :=
  [("snow-capped_mountain", "🏔"), ("snow_capped_mountain", "🏔"), ("camping", "🏕"),
   ("beach_with_umbrella", "🏖"), ("building_construction", "🏗"), ("house_buildings", "🏘"),
   ("houses", "🏘"), ("cityscape", "🏙"), ("derelict_house", "🏚"), ("derelict_house_building", "🏚"),
   ("classical_building", "🏛"), ("desert", "🏜"), ("desert_island", "🏝"), ("national_park", "🏞"),
   ("stadium", "🏟"), ("house", "🏠"), ("house_with_garden", "🏡"), ("office", "🏢"),
   ("office_building", "🏢"), ("japanese_post_office", "🏣"), ("post_office", "🏣"),
   ("european_post_office", "🏤"), ("hospital", "🏥"), ("bank", "🏦"), ("atm", "🏧"),
   ("atm_sign", "🏧"), ("hotel", "🏨"), ("love_hotel", "🏩"), ("convenience_store", "🏪"),
   ("school", "🏫"), ("department_store", "🏬"), ("factory", "🏭"), ("izakaya_lantern", "🏮"),
   ("lantern", "🏮"), ("red_paper_lantern", "🏮"), ("japanese_castle", "🏯"), ("castle", "🏰"),
   ("european_castle", "🏰"), ("waving_white_flag", "🏳"), ("white_flag", "🏳"), ("black_flag", "🏴"),
   ("waving_black_flag", "🏴"), ("rosette", "🏵"), ("label", "🏷"), ("badminton", "🏸"),
   ("badminton_racquet_and_shuttlecock", "🏸"), ("bow_and_arrow", "🏹"), ("amphora", "🏺"),
   ("emoji_modifier_fitzpatrick_type__1__2", "🏻"), ("light_skin_tone", "🏻"),
   ("emoji_modifier_fitzpatrick_type__3", "🏼"), ("medium_light_skin_tone", "🏼"),
   ("emoji_modifier_fitzpatrick_type__4", "🏽"), ("medium_skin_tone", "🏽"),
   ("emoji_modifier_fitzpatrick_type__5", "🏾"), ("medium_dark_skin_tone", "🏾"),
   ("dark_skin_tone", "🏿"), ("emoji_modifier_fitzpatrick_type__6", "🏿")]

/-- Animals. -/
def animals : List (String × String) :=
  [("rat", "🐀"), ("mouse2", "🐁"), ("ox", "🐂"), ("water_buffalo", "🐃"), ("cow2", "🐄"),
   ("tiger2", "🐅"), ("leopard", "🐆"), ("rabbit2", "🐇"), ("cat2", "🐈"), ("dragon", "🐉"),
   ("crocodile", "🐊"), ("whale2", "🐋"), ("snail", "🐌"), ("snake", "🐍"), ("racehorse", "🐎"),
   ("ram", "🐏"), ("goat", "🐐"), ("ewe", "🐑"), ("sheep", "🐑"), ("monkey", "🐒"), ("rooster", "🐓"),
   ("chicken", "🐔"), ("dog2", "🐕"), ("pig2", "🐖"), ("boar", "🐗"), ("elephant", "🐘"),
   ("octopus", "🐙"), ("shell", "🐚"), ("spiral_shell", "🐚"), ("bug", "🐛"), ("ant", "🐜"),
   ("bee", "🐝"), ("honeybee", "🐝"), ("beetle", "🐞"), ("lady_beetle", "🐞"), ("fish", "🐟"),
   ("tropical_fish", "🐠"), ("blowfish", "🐡"), ("turtle", "🐢"), ("hatching_chick", "🐣"),
   ("baby_chick", "🐤"), ("front-facing_baby_chick", "🐥"), ("hatched_chick", "🐥"), ("bird", "🐦"),
   ("penguin", "🐧"), ("koala", "🐨"), ("poodle", "🐩"), ("dromedary_camel", "🐪"), ("camel", "🐫"),
   ("two-hump_camel", "🐫"), ("dolphin", "🐬"), ("flipper", "🐬"), ("mouse", "🐭"),
   ("mouse_face", "🐭"), ("cow", "🐮"), ("cow_face", "🐮"), ("tiger", "🐯"), ("tiger_face", "🐯"),
   ("rabbit", "🐰"), ("rabbit_face", "🐰"), ("cat", "🐱"), ("cat_face", "🐱"), ("dragon_face", "🐲"),
   ("spouting_whale", "🐳"), ("whale", "🐳"), ("horse", "🐴"), ("horse_face", "🐴"),
   ("monkey_face", "🐵"), ("dog", "🐶"), ("dog_face", "🐶"), ("pig", "🐷"), ("pig_face", "🐷"),
   ("frog", "🐸"), ("frog_face", "🐸"), ("hamster", "🐹"), ("hamster_face", "🐹"), ("wolf", "🐺"),
   ("wolf_face", "🐺"), ("bear", "🐻"), ("bear_face", "🐻"), ("panda_face", "🐼"), ("pig_nose", "🐽"),
   ("feet", "🐾"), ("paw_prints", "🐾"), ("chipmunk", "🐿")]

/-- All names for the living world and its places. -/
def nature : List (String × String) :=
  sky ++ plants ++ food ++ pastimes ++ places ++ animals

end SourceLint.Emoji
