/-! Names of the emoji for faces and gestures. -/

namespace SourceLint.Emoji

/-- Human faces. -/
def faces : List (String × String) :=
  [("grinning", "😀"), ("grinning_face", "😀"), ("beaming_face_with_smiling_eyes", "😁"),
   ("grin", "😁"), ("face_with_tears_of_joy", "😂"), ("joy", "😂"),
   ("grinning_face_with_big_eyes", "😃"), ("smiley", "😃"),
   ("grinning_face_with_smiling_eyes", "😄"), ("smile", "😄"), ("grinning_face_with_sweat", "😅"),
   ("sweat_smile", "😅"), ("grinning_squinting_face", "😆"), ("laughing", "😆"), ("satisfied", "😆"),
   ("innocent", "😇"), ("smiling_face_with_halo", "😇"), ("smiling_face_with_horns", "😈"),
   ("smiling_imp", "😈"), ("wink", "😉"), ("winking_face", "😉"), ("blush", "😊"),
   ("smiling_face_with_smiling_eyes", "😊"), ("face_savoring_food", "😋"), ("yum", "😋"),
   ("relieved", "😌"), ("relieved_face", "😌"), ("heart_eyes", "😍"),
   ("smiling_face_with_heart-eyes", "😍"), ("smiling_face_with_sunglasses", "😎"),
   ("sunglasses", "😎"), ("smirk", "😏"), ("smirking_face", "😏"), ("neutral_face", "😐"),
   ("expressionless", "😑"), ("expressionless_face", "😑"), ("unamused", "😒"),
   ("unamused_face", "😒"), ("downcast_face_with_sweat", "😓"), ("sweat", "😓"), ("pensive", "😔"),
   ("pensive_face", "😔"), ("confused", "😕"), ("confused_face", "😕"), ("confounded", "😖"),
   ("confounded_face", "😖"), ("kissing", "😗"), ("kissing_face", "😗"),
   ("face_blowing_a_kiss", "😘"), ("kissing_heart", "😘"), ("kissing_face_with_smiling_eyes", "😙"),
   ("kissing_smiling_eyes", "😙"), ("kissing_closed_eyes", "😚"),
   ("kissing_face_with_closed_eyes", "😚"), ("face_with_tongue", "😛"), ("stuck_out_tongue", "😛"),
   ("stuck_out_tongue_winking_eye", "😜"), ("winking_face_with_tongue", "😜"),
   ("squinting_face_with_tongue", "😝"), ("stuck_out_tongue_closed_eyes", "😝"),
   ("disappointed", "😞"), ("disappointed_face", "😞"), ("worried", "😟"), ("worried_face", "😟"),
   ("angry", "😠"), ("angry_face", "😠"), ("pouting_face", "😡"), ("rage", "😡"), ("cry", "😢"),
   ("crying_face", "😢"), ("persevere", "😣"), ("persevering_face", "😣"),
   ("face_with_steam_from_nose", "😤"), ("triumph", "😤"), ("disappointed_relieved", "😥"),
   ("sad_but_relieved_face", "😥"), ("frowning", "😦"), ("frowning_face_with_open_mouth", "😦"),
   ("anguished", "😧"), ("anguished_face", "😧"), ("fearful", "😨"), ("fearful_face", "😨"),
   ("weary", "😩"), ("weary_face", "😩"), ("sleepy", "😪"), ("sleepy_face", "😪"),
   ("tired_face", "😫"), ("grimacing", "😬"), ("grimacing_face", "😬"), ("loudly_crying_face", "😭"),
   ("sob", "😭"), ("face_with_open_mouth", "😮"), ("open_mouth", "😮"), ("hushed", "😯"),
   ("hushed_face", "😯"), ("anxious_face_with_sweat", "😰"), ("cold_sweat", "😰"),
   ("face_screaming_in_fear", "😱"), ("scream", "😱"), ("astonished", "😲"),
   ("astonished_face", "😲"), ("flushed", "😳"), ("flushed_face", "😳"), ("sleeping", "😴"),
   ("sleeping_face", "😴"), ("dizzy_face", "😵"), ("face_without_mouth", "😶"), ("no_mouth", "😶"),
   ("face_with_medical_mask", "😷"), ("mask", "😷")]

/-- Cat and monkey faces, and gestures. -/
def gestures : List (String × String) :=
  [("grinning_cat_face_with_smiling_eyes", "😸"), ("smile_cat", "😸"),
   ("cat_face_with_tears_of_joy", "😹"), ("joy_cat", "😹"), ("grinning_cat_face", "😺"),
   ("smiley_cat", "😺"), ("heart_eyes_cat", "😻"), ("smiling_cat_face_with_heart-eyes", "😻"),
   ("cat_face_with_wry_smile", "😼"), ("smirk_cat", "😼"), ("kissing_cat", "😽"),
   ("kissing_cat_face", "😽"), ("pouting_cat", "😾"), ("pouting_cat_face", "😾"),
   ("crying_cat_face", "😿"), ("scream_cat", "🙀"), ("weary_cat_face", "🙀"),
   ("slightly_frowning_face", "🙁"), ("slightly_smiling_face", "🙂"), ("upside-down_face", "🙃"),
   ("upside__down_face", "🙃"), ("face_with_rolling_eyes", "🙄"), ("no_good", "🙅"),
   ("ok_woman", "🙆"), ("bow", "🙇"), ("see-no-evil_monkey", "🙈"), ("see_no_evil", "🙈"),
   ("hear-no-evil_monkey", "🙉"), ("hear_no_evil", "🙉"), ("speak-no-evil_monkey", "🙊"),
   ("speak_no_evil", "🙊"), ("raising_hand", "🙋"), ("raised_hands", "🙌"),
   ("person_with_pouting_face", "🙎"), ("pray", "🙏")]

/-- All names for faces and gestures. -/
def allFaces : List (String × String) :=
  faces ++ gestures

end SourceLint.Emoji
