/-! Names of the emoji that are written with several characters. -/

namespace SourceLint.Emoji

/-- Keys of a telephone. -/
def keys : List (String × String) :=
  [("keycap_number_sign", "#\u20e3"), ("keycap_#", "#\ufe0f\u20e3"),
   ("keycap_asterisk", "*\u20e3"), ("keycap_*", "*\ufe0f\u20e3"),
   ("keycap_digit_zero", "0\u20e3"), ("keycap_0", "0\ufe0f\u20e3"), ("zero", "0\ufe0f\u20e3"),
   ("keycap_digit_one", "1\u20e3"), ("keycap_1", "1\ufe0f\u20e3"), ("one", "1\ufe0f\u20e3"),
   ("keycap_digit_two", "2\u20e3"), ("keycap_2", "2\ufe0f\u20e3"), ("two", "2\ufe0f\u20e3"),
   ("keycap_digit_three", "3\u20e3"), ("keycap_3", "3\ufe0f\u20e3"), ("three", "3\ufe0f\u20e3"),
   ("keycap_digit_four", "4\u20e3"), ("four", "4\ufe0f\u20e3"), ("keycap_4", "4\ufe0f\u20e3"),
   ("keycap_digit_five", "5\u20e3"), ("five", "5\ufe0f\u20e3"), ("keycap_5", "5\ufe0f\u20e3"),
   ("keycap_digit_six", "6\u20e3"), ("keycap_6", "6\ufe0f\u20e3"), ("six", "6\ufe0f\u20e3"),
   ("keycap_digit_seven", "7\u20e3"), ("keycap_7", "7\ufe0f\u20e3"), ("seven", "7\ufe0f\u20e3"),
   ("keycap_digit_eight", "8\u20e3"), ("eight", "8\ufe0f\u20e3"), ("keycap_8", "8\ufe0f\u20e3"),
   ("keycap_digit_nine", "9\u20e3"), ("keycap_9", "9\ufe0f\u20e3"), ("nine", "9\ufe0f\u20e3")]

/-- Characters that are joined to one picture. -/
def couples : List (String × String) :=
  [("rainbow_flag", "🏳\ufe0f\u200d🌈"), ("pirate_flag", "🏴\u200d☠\ufe0f"),
   ("service_dog", "🐕\u200d🦺"), ("eye_in_speech_bubble", "👁\ufe0f\u200d🗨\ufe0f"),
   ("couple_with_heart_man_man", "👨\u200d❤\ufe0f\u200d👨"),
   ("kiss_man_man", "👨\u200d❤\ufe0f\u200d💋\u200d👨"), ("family_man_boy", "👨\u200d👦"),
   ("family_man_boy_boy", "👨\u200d👦\u200d👦"), ("family_man_girl", "👨\u200d👧"),
   ("family_man_girl_boy", "👨\u200d👧\u200d👦"), ("family_man_girl_girl", "👨\u200d👧\u200d👧"),
   ("family_man_man_boy", "👨\u200d👨\u200d👦"),
   ("family_man_man_boy_boy", "👨\u200d👨\u200d👦\u200d👦"),
   ("family_man_man_girl", "👨\u200d👨\u200d👧"),
   ("family_man_man_girl_boy", "👨\u200d👨\u200d👧\u200d👦"),
   ("family_man_man_girl_girl", "👨\u200d👨\u200d👧\u200d👧"),
   ("family_man_woman_boy", "👨\u200d👩\u200d👦"),
   ("family_man_woman_boy_boy", "👨\u200d👩\u200d👦\u200d👦"),
   ("family_man_woman_girl", "👨\u200d👩\u200d👧"),
   ("family_man_woman_girl_boy", "👨\u200d👩\u200d👧\u200d👦"),
   ("family_man_woman_girl_girl", "👨\u200d👩\u200d👧\u200d👧"),
   ("man_with_probing_cane", "👨\u200d🦯"), ("red-haired_man", "👨\u200d🦰"),
   ("curly-haired_man", "👨\u200d🦱"), ("bald_man", "👨\u200d🦲"), ("white-haired_man", "👨\u200d🦳"),
   ("man_in_motorized_wheelchair", "👨\u200d🦼"), ("man_in_manual_wheelchair", "👨\u200d🦽"),
   ("couple_with_heart_woman_man", "👩\u200d❤\ufe0f\u200d👨"),
   ("couple_with_heart_woman_woman", "👩\u200d❤\ufe0f\u200d👩"),
   ("kiss_woman_man", "👩\u200d❤\ufe0f\u200d💋\u200d👨"),
   ("kiss_woman_woman", "👩\u200d❤\ufe0f\u200d💋\u200d👩"), ("family_woman_boy", "👩\u200d👦"),
   ("family_woman_boy_boy", "👩\u200d👦\u200d👦"), ("family_woman_girl", "👩\u200d👧"),
   ("family_woman_girl_boy", "👩\u200d👧\u200d👦"), ("family_woman_girl_girl", "👩\u200d👧\u200d👧"),
   ("family_woman_woman_boy", "👩\u200d👩\u200d👦"),
   ("family_woman_woman_boy_boy", "👩\u200d👩\u200d👦\u200d👦"),
   ("family_woman_woman_girl", "👩\u200d👩\u200d👧"),
   ("family_woman_woman_girl_boy", "👩\u200d👩\u200d👧\u200d👦"),
   ("family_woman_woman_girl_girl", "👩\u200d👩\u200d👧\u200d👧"),
   ("woman_with_probing_cane", "👩\u200d🦯"), ("red-haired_woman", "👩\u200d🦰"),
   ("curly-haired_woman", "👩\u200d🦱"), ("bald_woman", "👩\u200d🦲"),
   ("white-haired_woman", "👩\u200d🦳"), ("woman_in_motorized_wheelchair", "👩\u200d🦼"),
   ("woman_in_manual_wheelchair", "👩\u200d🦽"), ("women_with_bunny_ears", "👯\u200d♀\ufe0f"),
   ("men_with_bunny_ears", "👯\u200d♂\ufe0f"), ("women_wrestling", "🤼\u200d♀\ufe0f"),
   ("men_wrestling", "🤼\u200d♂\ufe0f"), ("people_holding_hands", "🧑\u200d🤝\u200d🧑"),
   ("woman_genie", "🧞\u200d♀\ufe0f"), ("man_genie", "🧞\u200d♂\ufe0f"),
   ("woman_zombie", "🧟\u200d♀\ufe0f"), ("man_zombie", "🧟\u200d♂\ufe0f")]

/-- All named sequences. -/
def sequences : List (String × String) :=
  keys ++ couples

end SourceLint.Emoji
