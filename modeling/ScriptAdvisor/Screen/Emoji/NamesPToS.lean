/-! # Named emoji, p to s

Names that start with a letter from p to s. -/

namespace ScriptAdvisor.Emoji

/-- Names and characters. A tilde marks what has skin tones. -/
def namesPToS : List String :=
  ["p_button=🅿 package=📦 page_facing_up=📄 page_with_curl=📃 pager=📟 paintbrush=🖌 palm_tree=🌴",
    "~palms_up_together=🤲 pancakes=🥞 panda_face=🐼 paperclip=📎 parking=🅿 parrot=🦜",
    "part_alternation_mark=〽 partly_sunny=⛅ party_popper=🎉 partying_face=🥳 passenger_ship=🛳",
    "passport_control=🛂 pause_button=⏸ paw_prints=🐾 peace_symbol=☮ peach=🍑 peacock=🦚 peanuts=🥜",
    "pear=🍐 pen=🖊 pencil=📝 pencil2=✏ penguin=🐧 pensive=😔 pensive_face=😔 people_holding_hands=🧑‍🤝‍🧑",
    "people_with_bunny_ears=👯 people_wrestling=🤼 performing_arts=🎭 persevere=😣 persevering_face=😣",
    "~person_biking=🚴 ~person_bouncing_ball=⛹ ~person_bowing=🙇 ~person_cartwheeling=🤸",
    "~person_climbing=🧗 ~person_facepalming=🤦 person_fencing=🤺 ~person_frowning=🙍",
    "~person_gesturing_no=🙅 ~person_gesturing_ok=🙆 ~person_getting_haircut=💇",
    "~person_getting_massage=💆 ~person_golfing=🏌 ~person_in_bed=🛌 ~person_in_lotus_position=🧘",
    "~person_in_steamy_room=🧖 ~person_juggling=🤹 person_kneeling=🧎 ~person_lifting_weights=🏋",
    "~person_mountain_biking=🚵 ~person_playing_handball=🤾 ~person_playing_water_polo=🤽",
    "~person_pouting=🙎 ~person_raising_hand=🙋 ~person_rowing_boat=🚣 ~person_running=🏃",
    "~person_shrugging=🤷 person_standing=🧍 ~person_surfing=🏄 ~person_swimming=🏊",
    "~person_taking_bath=🛀 ~person_tipping_hand=💁 ~person_walking=🚶 ~person_wearing_turban=👳",
    "person_with_ball=⛹ person_with_blond_hair=👱 person_with_pouting_face=🙎 petri_dish=🧫 phone=☎",
    "pick=⛏ pie=🥧 pig=🐷 pig2=🐖 pig_face=🐷 pig_nose=🐽 pile_of_poo=💩 pill=💊 pinching_hand=🤏",
    "pine_decoration=🎍 pineapple=🍍 ping_pong=🏓 pirate_flag=🏴‍☠️ pisces=♓ pistol=🔫 pizza=🍕",
    "place_of_worship=🛐 play_button=▶ play_or_pause_button=⏯ pleading_face=🥺 point_down=👇",
    "point_left=👈 point_right=👉 point_up=☝ point_up_2=👆 police_car=🚓 police_car_light=🚨",
    "~police_officer=👮 poodle=🐩 pool_8_ball=🎱 poop=💩 popcorn=🍿 post_office=🏣 postal_horn=📯",
    "postbox=📮 pot_of_food=🍲 potable_water=🚰 potato=🥔 pouch=👝 poultry_leg=🍗 pound=💷",
    "pound_banknote=💷 pouting_cat=😾 pouting_cat_face=😾 pouting_face=😡 pray=🙏 prayer_beads=📿",
    "~pregnant_woman=🤰 pretzel=🥨 ~prince=🤴 ~princess=👸 printer=🖨 probing_cane=🦯 prohibited=🚫",
    "punch=👊 purple_circle=🟣 purple_heart=💜 purple_square=🟪 purse=👛 pushpin=📌",
    "put_litter_in_its_place=🚮 question=❓ question_mark=❓ rabbit=🐰 rabbit2=🐇 rabbit_face=🐰",
    "raccoon=🦝 racehorse=🐎 racing_car=🏎 racing_motorcycle=🏍 radio=📻 radio_button=🔘 radioactive=☢",
    "radioactive_sign=☢ rage=😡 railway_car=🚃 railway_track=🛤 rainbow=🌈 rainbow_flag=🏳️‍🌈",
    "~raised_back_of_hand=🤚 ~raised_fist=✊ ~raised_hand=✋ raised_hand_with_fingers_splayed=🖐",
    "raised_hand_with_part_between_middle_and_ring_fingers=🖖 raised_hands=🙌 raising_hand=🙋",
    "~raising_hands=🙌 ram=🐏 ramen=🍜 rat=🐀 razor=🪒 receipt=🧾 record_button=⏺ recycle=♻",
    "recycling_symbol=♻ red-haired_man=👨‍🦰 red-haired_woman=👩‍🦰 red_apple=🍎 red_car=🚗 red_circle=🔴",
    "red_envelope=🧧 red_hair=🦰 red_heart=❤ red_paper_lantern=🏮 red_square=🟥",
    "red_triangle_pointed_down=🔻 red_triangle_pointed_up=🔺 regional_indicator_a=🇦",
    "regional_indicator_b=🇧 regional_indicator_c=🇨 regional_indicator_d=🇩 regional_indicator_e=🇪",
    "regional_indicator_f=🇫 regional_indicator_g=🇬 regional_indicator_h=🇭 regional_indicator_i=🇮",
    "regional_indicator_j=🇯 regional_indicator_k=🇰 regional_indicator_l=🇱 regional_indicator_m=🇲",
    "regional_indicator_n=🇳 regional_indicator_o=🇴 regional_indicator_p=🇵 regional_indicator_q=🇶",
    "regional_indicator_r=🇷 regional_indicator_s=🇸 regional_indicator_symbol_letter_a=🇦",
    "regional_indicator_symbol_letter_b=🇧 regional_indicator_symbol_letter_c=🇨",
    "regional_indicator_symbol_letter_d=🇩 regional_indicator_symbol_letter_e=🇪",
    "regional_indicator_symbol_letter_f=🇫 regional_indicator_symbol_letter_g=🇬",
    "regional_indicator_symbol_letter_h=🇭 regional_indicator_symbol_letter_i=🇮",
    "regional_indicator_symbol_letter_j=🇯 regional_indicator_symbol_letter_k=🇰",
    "regional_indicator_symbol_letter_l=🇱 regional_indicator_symbol_letter_m=🇲",
    "regional_indicator_symbol_letter_n=🇳 regional_indicator_symbol_letter_o=🇴",
    "regional_indicator_symbol_letter_p=🇵 regional_indicator_symbol_letter_q=🇶",
    "regional_indicator_symbol_letter_r=🇷 regional_indicator_symbol_letter_s=🇸",
    "regional_indicator_symbol_letter_t=🇹 regional_indicator_symbol_letter_u=🇺",
    "regional_indicator_symbol_letter_v=🇻 regional_indicator_symbol_letter_w=🇼",
    "regional_indicator_symbol_letter_x=🇽 regional_indicator_symbol_letter_y=🇾",
    "regional_indicator_symbol_letter_z=🇿 regional_indicator_t=🇹 regional_indicator_u=🇺",
    "regional_indicator_v=🇻 regional_indicator_w=🇼 regional_indicator_x=🇽 regional_indicator_y=🇾",
    "regional_indicator_z=🇿 registered=® relaxed=☺ relieved=😌 relieved_face=😌 reminder_ribbon=🎗",
    "repeat=🔁 repeat_button=🔁 repeat_one=🔂 repeat_single_button=🔂 rescue_worker’s_helmet=⛑",
    "restroom=🚻 reverse_button=◀ reversed_hand_with_middle_finger_extended=🖕 revolving_hearts=💞",
    "rewind=⏪ rhinoceros=🦏 ribbon=🎀 rice=🍚 rice_ball=🍙 rice_cracker=🍘 rice_scene=🎑",
    "~right-facing_fist=🤜 right_anger_bubble=🗯 right_arrow=➡ right_arrow_curving_down=⤵",
    "right_arrow_curving_left=↩ right_arrow_curving_up=⤴ ring=💍 ringed_planet=🪐",
    "roasted_sweet_potato=🍠 robot=🤖 robot_face=🤖 rocket=🚀 roll_of_paper=🧻 rolled-up_newspaper=🗞",
    "rolled__up_newspaper=🗞 roller_coaster=🎢 rolling_on_the_floor_laughing=🤣 rooster=🐓 rose=🌹",
    "rosette=🏵 rotating_light=🚨 round_pushpin=📍 rowboat=🚣 rugby_football=🏉 runner=🏃 running=🏃",
    "running_shirt=🎽 running_shirt_with_sash=🎽 running_shoe=👟 sa=🈂 sad_but_relieved_face=😥",
    "safety_pin=🧷 safety_vest=🦺 sagittarius=♐ sailboat=⛵ sake=🍶 salt=🧂 sandal=👡 sandwich=🥪 santa=🎅",
    "~santa_claus=🎅 sari=🥻 satellite=📡 satellite_antenna=📡 satisfied=😆 sauropod=🦕 saxophone=🎷",
    "scales=⚖ scarf=🧣 school=🏫 school_backpack=🎒 school_satchel=🎒 scissors=✂ scorpio=♏ scorpion=🦂",
    "scorpius=♏ scotland=🏴󠁧󠁢󠁳󠁣󠁴󠁿 scream=😱 scream_cat=🙀 scroll=📜 seat=💺 secret=㊙",
    "see-no-evil_monkey=🙈 see_no_evil=🙈 seedling=🌱 ~selfie=🤳 service_dog=🐕‍🦺 seven=7️⃣",
    "seven-thirty=🕢 seven_o’clock=🕖 shallow_pan_of_food=🥘 shamrock=☘ shark=🦈 shaved_ice=🍧",
    "sheaf_of_rice=🌾 sheep=🐑 shell=🐚 shield=🛡 shinto_shrine=⛩ ship=🚢 shirt=👕 shit=💩 shoe=👞",
    "shooting_star=🌠 shopping_bags=🛍 shopping_cart=🛒 shortcake=🍰 shorts=🩳 shower=🚿 shrimp=🦐",
    "shuffle_tracks_button=🔀 shushing_face=🤫 ~sign_of_the_horns=🤘 signal_strength=📶 six=6️⃣",
    "six-thirty=🕡 six_o’clock=🕕 six_pointed_star=🔯 skateboard=🛹 ski=🎿 skier=⛷ skis=🎿 skull=💀",
    "skull_and_crossbones=☠ skunk=🦨 sled=🛷 sleeping=😴 sleeping_accommodation=🛌 sleeping_face=😴",
    "sleepy=😪 sleepy_face=😪 sleuth_or_spy=🕵 slightly_frowning_face=🙁 slightly_smiling_face=🙂",
    "slot_machine=🎰 sloth=🦥 small_airplane=🛩 small_blue_diamond=🔹 small_orange_diamond=🔸",
    "small_red_triangle=🔺 small_red_triangle_down=🔻 smile=😄 smile_cat=😸 smiley=😃 smiley_cat=😺",
    "smiling_cat_face_with_heart-eyes=😻 smiling_face=☺ smiling_face_with_3_hearts=🥰",
    "smiling_face_with_halo=😇 smiling_face_with_heart-eyes=😍 smiling_face_with_horns=😈",
    "smiling_face_with_smiling_eyes=😊 smiling_face_with_sunglasses=😎 smiling_imp=😈 smirk=😏",
    "smirk_cat=😼 smirking_face=😏 smoking=🚬 snail=🐌 snake=🐍 sneezing_face=🤧 snow-capped_mountain=🏔",
    "snow_capped_mountain=🏔 ~snowboarder=🏂 snowflake=❄ snowman=☃ snowman_without_snow=⛄ soap=🧼",
    "sob=😭 soccer=⚽ soccer_ball=⚽ socks=🧦 soft_ice_cream=🍦 softball=🥎 soon=🔜 soon_arrow=🔜 sos=🆘",
    "sos_button=🆘 sound=🔉 space_invader=👾 spade_suit=♠ spades=♠ spaghetti=🍝 sparkle=❇ sparkler=🎇",
    "sparkles=✨ sparkling_heart=💖 speak-no-evil_monkey=🙊 speak_no_evil=🙊 speaker=🔈",
    "speaker_high_volume=🔊 speaker_low_volume=🔈 speaker_medium_volume=🔉 speaking_head=🗣",
    "speaking_head_in_silhouette=🗣 speech_balloon=💬 speedboat=🚤 spider=🕷 spider_web=🕸",
    "spiral_calendar=🗓 spiral_calendar_pad=🗓 spiral_note_pad=🗒 spiral_notepad=🗒 spiral_shell=🐚",
    "sponge=🧽 spoon=🥄 sport_utility_vehicle=🚙 sports_medal=🏅 spouting_whale=🐳 squid=🦑",
    "squinting_face_with_tongue=😝 stadium=🏟 star=⭐ star-struck=🤩 star2=🌟 star_and_crescent=☪",
    "star_of_david=✡ stars=🌠 station=🚉 statue_of_liberty=🗽 steam_locomotive=🚂 steaming_bowl=🍜",
    "stethoscope=🩺 stew=🍲 stop_button=⏹ stop_sign=🛑 stopwatch=⏱ straight_ruler=📏 strawberry=🍓",
    "stuck_out_tongue=😛 stuck_out_tongue_closed_eyes=😝 stuck_out_tongue_winking_eye=😜",
    "studio_microphone=🎙 stuffed_flatbread=🥙 sun=☀ sun_behind_cloud=⛅ sun_behind_large_cloud=🌥",
    "sun_behind_rain_cloud=🌦 sun_behind_small_cloud=🌤 sun_with_face=🌞 sunflower=🌻 sunglasses=😎",
    "sunny=☀ sunrise=🌅 sunrise_over_mountains=🌄 sunset=🌇 superhero=🦸 supervillain=🦹 surfer=🏄",
    "sushi=🍣 suspension_railway=🚟 swan=🦢 sweat=😓 sweat_droplets=💦 sweat_drops=💦 sweat_smile=😅",
    "sweet_potato=🍠 swimmer=🏊 symbols=🔣 synagogue=🕍 syringe=💉"]

end ScriptAdvisor.Emoji
