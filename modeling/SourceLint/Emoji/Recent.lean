/-! Names of the emoji that were added last. -/

namespace SourceLint.Emoji

/-- Later faces, hands and food. -/
def recentFaces : List (String × String) :=
  [("white_heart", "🤍"), ("brown_heart", "🤎"), ("pinching_hand", "🤏"), ("zipper-mouth_face", "🤐"),
   ("zipper__mouth_face", "🤐"), ("money-mouth_face", "🤑"), ("money__mouth_face", "🤑"),
   ("face_with_thermometer", "🤒"), ("nerd_face", "🤓"), ("thinking_face", "🤔"),
   ("face_with_head-bandage", "🤕"), ("face_with_head__bandage", "🤕"), ("robot", "🤖"),
   ("robot_face", "🤖"), ("hugging_face", "🤗"), ("handshake", "🤝"), ("cowboy_hat_face", "🤠"),
   ("clown_face", "🤡"), ("nauseated_face", "🤢"), ("rolling_on_the_floor_laughing", "🤣"),
   ("drooling_face", "🤤"), ("lying_face", "🤥"), ("sneezing_face", "🤧"),
   ("face_with_raised_eyebrow", "🤨"), ("star-struck", "🤩"), ("zany_face", "🤪"),
   ("shushing_face", "🤫"), ("face_with_symbols_on_mouth", "🤬"),
   ("face_with_hand_over_mouth", "🤭"), ("face_vomiting", "🤮"), ("exploding_head", "🤯"),
   ("person_fencing", "🤺"), ("people_wrestling", "🤼"), ("diving_mask", "🤿"),
   ("wilted_flower", "🥀"), ("drum", "🥁"), ("clinking_glasses", "🥂"), ("tumbler_glass", "🥃"),
   ("spoon", "🥄"), ("goal_net", "🥅"), ("1st_place_medal", "🥇"), ("2nd_place_medal", "🥈"),
   ("3rd_place_medal", "🥉"), ("boxing_glove", "🥊"), ("martial_arts_uniform", "🥋"),
   ("curling_stone", "🥌"), ("lacrosse", "🥍"), ("softball", "🥎"), ("flying_disc", "🥏"),
   ("croissant", "🥐"), ("avocado", "🥑"), ("cucumber", "🥒"), ("bacon", "🥓"), ("potato", "🥔"),
   ("carrot", "🥕"), ("baguette_bread", "🥖"), ("green_salad", "🥗"), ("shallow_pan_of_food", "🥘"),
   ("stuffed_flatbread", "🥙"), ("glass_of_milk", "🥛"), ("peanuts", "🥜"), ("kiwi_fruit", "🥝"),
   ("pancakes", "🥞"), ("dumpling", "🥟"), ("fortune_cookie", "🥠"), ("takeout_box", "🥡"),
   ("chopsticks", "🥢"), ("bowl_with_spoon", "🥣"), ("cup_with_straw", "🥤"), ("coconut", "🥥"),
   ("broccoli", "🥦"), ("pie", "🥧"), ("pretzel", "🥨"), ("cut_of_meat", "🥩"), ("sandwich", "🥪"),
   ("canned_food", "🥫"), ("leafy_green", "🥬"), ("mango", "🥭"), ("moon_cake", "🥮"), ("bagel", "🥯")]

/-- Later animals, people and things. -/
def recentThings : List (String × String) :=
  [("smiling_face_with_3_hearts", "🥰"), ("yawning_face", "🥱"), ("partying_face", "🥳"),
   ("woozy_face", "🥴"), ("hot_face", "🥵"), ("cold_face", "🥶"), ("pleading_face", "🥺"),
   ("sari", "🥻"), ("lab_coat", "🥼"), ("goggles", "🥽"), ("hiking_boot", "🥾"), ("flat_shoe", "🥿"),
   ("crab", "🦀"), ("lion_face", "🦁"), ("scorpion", "🦂"), ("turkey", "🦃"), ("unicorn_face", "🦄"),
   ("eagle", "🦅"), ("duck", "🦆"), ("bat", "🦇"), ("shark", "🦈"), ("owl", "🦉"), ("fox_face", "🦊"),
   ("butterfly", "🦋"), ("deer", "🦌"), ("gorilla", "🦍"), ("lizard", "🦎"), ("rhinoceros", "🦏"),
   ("shrimp", "🦐"), ("squid", "🦑"), ("giraffe", "🦒"), ("zebra", "🦓"), ("hedgehog", "🦔"),
   ("sauropod", "🦕"), ("t-rex", "🦖"), ("cricket", "🦗"), ("kangaroo", "🦘"), ("llama", "🦙"),
   ("peacock", "🦚"), ("hippopotamus", "🦛"), ("parrot", "🦜"), ("raccoon", "🦝"), ("lobster", "🦞"),
   ("mosquito", "🦟"), ("microbe", "🦠"), ("badger", "🦡"), ("swan", "🦢"), ("sloth", "🦥"),
   ("otter", "🦦"), ("orangutan", "🦧"), ("skunk", "🦨"), ("flamingo", "🦩"), ("oyster", "🦪"),
   ("guide_dog", "🦮"), ("probing_cane", "🦯"), ("red_hair", "🦰"), ("curly_hair", "🦱"),
   ("bald", "🦲"), ("white_hair", "🦳"), ("bone", "🦴"), ("leg", "🦵"), ("foot", "🦶"), ("tooth", "🦷"),
   ("superhero", "🦸"), ("supervillain", "🦹"), ("safety_vest", "🦺"), ("ear_with_hearing_aid", "🦻"),
   ("motorized_wheelchair", "🦼"), ("manual_wheelchair", "🦽"), ("mechanical_arm", "🦾"),
   ("mechanical_leg", "🦿"), ("cheese_wedge", "🧀"), ("cupcake", "🧁"), ("salt", "🧂"),
   ("beverage_box", "🧃"), ("garlic", "🧄"), ("onion", "🧅"), ("falafel", "🧆"), ("waffle", "🧇"),
   ("butter", "🧈"), ("mate", "🧉"), ("ice", "🧊"), ("person_standing", "🧍"),
   ("person_kneeling", "🧎"), ("deaf_person", "🧏"), ("face_with_monocle", "🧐"), ("genie", "🧞"),
   ("zombie", "🧟"), ("brain", "🧠"), ("orange_heart", "🧡"), ("billed_cap", "🧢"), ("scarf", "🧣"),
   ("gloves", "🧤"), ("coat", "🧥"), ("socks", "🧦"), ("red_envelope", "🧧"), ("firecracker", "🧨"),
   ("jigsaw", "🧩"), ("test_tube", "🧪"), ("petri_dish", "🧫"), ("dna", "🧬"), ("compass", "🧭"),
   ("abacus", "🧮"), ("fire_extinguisher", "🧯"), ("toolbox", "🧰"), ("brick", "🧱"), ("magnet", "🧲"),
   ("luggage", "🧳"), ("lotion_bottle", "🧴"), ("thread", "🧵"), ("yarn", "🧶"), ("safety_pin", "🧷"),
   ("teddy_bear", "🧸"), ("broom", "🧹"), ("basket", "🧺"), ("roll_of_paper", "🧻"), ("soap", "🧼"),
   ("sponge", "🧽"), ("receipt", "🧾"), ("nazar_amulet", "🧿"), ("ballet_shoes", "🩰"),
   ("one-piece_swimsuit", "🩱"), ("briefs", "🩲"), ("shorts", "🩳"), ("drop_of_blood", "🩸"),
   ("adhesive_bandage", "🩹"), ("stethoscope", "🩺"), ("yo-yo", "🪀"), ("kite", "🪁"),
   ("ringed_planet", "🪐"), ("chair", "🪑"), ("razor", "🪒"), ("axe", "🪓"), ("diya_lamp", "🪔"),
   ("banjo", "🪕")]

/-- All names that were added last. -/
def recent : List (String × String) :=
  recentFaces ++ recentThings

end SourceLint.Emoji
