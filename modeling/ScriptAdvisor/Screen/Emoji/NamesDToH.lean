/-! # Named emoji, d to h

Names that start with a letter from d to h. -/

namespace ScriptAdvisor.Emoji

/-- Names and characters. A tilde marks what has skin tones. -/
def namesDToH : List String :=
  ["dagger=🗡 dagger_knife=🗡 dancer=💃 dancers=👯 dango=🍡 dark_skin_tone=🏿 dark_sunglasses=🕶 dart=🎯",
    "dash=💨 dashing_away=💨 date=📅 deaf_person=🧏 deciduous_tree=🌳 deer=🦌 delivery_truck=🚚",
    "department_store=🏬 derelict_house=🏚 derelict_house_building=🏚 desert=🏜 desert_island=🏝",
    "desktop_computer=🖥 ~detective=🕵 diamond_shape_with_a_dot_inside=💠 diamond_suit=♦",
    "diamond_with_a_dot=💠 diamonds=♦ dim_button=🔅 direct_hit=🎯 disappointed=😞 disappointed_face=😞",
    "disappointed_relieved=😥 diving_mask=🤿 diya_lamp=🪔 dizzy=💫 dizzy_face=😵 dna=🧬 do_not_litter=🚯",
    "dog=🐶 dog2=🐕 dog_face=🐶 dollar=💵 dollar_banknote=💵 dolls=🎎 dolphin=🐬 door=🚪",
    "dotted_six-pointed_star=🔯 double_curly_loop=➿ double_exclamation_mark=‼ double_vertical_bar=⏸",
    "doughnut=🍩 dove=🕊 dove_of_peace=🕊 down-left_arrow=↙ down-right_arrow=↘ down_arrow=⬇",
    "downcast_face_with_sweat=😓 downwards_button=🔽 dragon=🐉 dragon_face=🐲 dress=👗",
    "dromedary_camel=🐪 drooling_face=🤤 drop_of_blood=🩸 droplet=💧 drum=🥁 duck=🦆 dumpling=🥟 dvd=📀",
    "e-mail=📧 e__mail=📧 eagle=🦅 ~ear=👂 ear_of_corn=🌽 ear_of_rice=🌾 ear_with_hearing_aid=🦻",
    "earth_africa=🌍 earth_americas=🌎 earth_asia=🌏 egg=🍳 eggplant=🍆 eight=8️⃣ eight-pointed_star=✴",
    "eight-spoked_asterisk=✳ eight-thirty=🕣 eight_o’clock=🕗 eight_pointed_black_star=✴",
    "eight_spoked_asterisk=✳ eject_button=⏏ eject_symbol=⏏ electric_plug=🔌 elephant=🐘",
    "eleven-thirty=🕦 eleven_o’clock=🕚 ~elf=🧝 email=✉ emoji_modifier_fitzpatrick_type__1__2=🏻",
    "emoji_modifier_fitzpatrick_type__3=🏼 emoji_modifier_fitzpatrick_type__4=🏽",
    "emoji_modifier_fitzpatrick_type__5=🏾 emoji_modifier_fitzpatrick_type__6=🏿 end=🔚 end_arrow=🔚",
    "england=🏴󠁧󠁢󠁥󠁮󠁧󠁿 envelope=✉ envelope_with_arrow=📩 euro=💶 euro_banknote=💶 european_castle=🏰",
    "european_post_office=🏤 evergreen_tree=🌲 ewe=🐑 exclamation=❗ exclamation_mark=❗",
    "exclamation_question_mark=⁉ exploding_head=🤯 expressionless=😑 expressionless_face=😑 eye=👁",
    "eye_in_speech_bubble=👁️‍🗨️ eyeglasses=👓 eyes=👀 face_blowing_a_kiss=😘 face_savoring_food=😋",
    "face_screaming_in_fear=😱 face_vomiting=🤮 face_with_hand_over_mouth=🤭 face_with_head-bandage=🤕",
    "face_with_head__bandage=🤕 face_with_medical_mask=😷 face_with_monocle=🧐 face_with_open_mouth=😮",
    "face_with_raised_eyebrow=🤨 face_with_rolling_eyes=🙄 face_with_steam_from_nose=😤",
    "face_with_symbols_on_mouth=🤬 face_with_tears_of_joy=😂 face_with_thermometer=🤒",
    "face_with_tongue=😛 face_without_mouth=😶 facepunch=👊 factory=🏭 ~fairy=🧚 falafel=🧆",
    "fallen_leaf=🍂 family=👪 family_man_boy=👨‍👦 family_man_boy_boy=👨‍👦‍👦 family_man_girl=👨‍👧",
    "family_man_girl_boy=👨‍👧‍👦 family_man_girl_girl=👨‍👧‍👧 family_man_man_boy=👨‍👨‍👦",
    "family_man_man_boy_boy=👨‍👨‍👦‍👦 family_man_man_girl=👨‍👨‍👧 family_man_man_girl_boy=👨‍👨‍👧‍👦",
    "family_man_man_girl_girl=👨‍👨‍👧‍👧 family_man_woman_boy=👨‍👩‍👦 family_man_woman_boy_boy=👨‍👩‍👦‍👦",
    "family_man_woman_girl=👨‍👩‍👧 family_man_woman_girl_boy=👨‍👩‍👧‍👦",
    "family_man_woman_girl_girl=👨‍👩‍👧‍👧 family_woman_boy=👩‍👦 family_woman_boy_boy=👩‍👦‍👦",
    "family_woman_girl=👩‍👧 family_woman_girl_boy=👩‍👧‍👦 family_woman_girl_girl=👩‍👧‍👧",
    "family_woman_woman_boy=👩‍👩‍👦 family_woman_woman_boy_boy=👩‍👩‍👦‍👦 family_woman_woman_girl=👩‍👩‍👧",
    "family_woman_woman_girl_boy=👩‍👩‍👧‍👦 family_woman_woman_girl_girl=👩‍👩‍👧‍👧",
    "fast-forward_button=⏩ fast_down_button=⏬ fast_forward=⏩ fast_reverse_button=⏪",
    "fast_up_button=⏫ fax=📠 fax_machine=📠 fearful=😨 fearful_face=😨 feet=🐾 female_sign=♀",
    "ferris_wheel=🎡 ferry=⛴ field_hockey=🏑 field_hockey_stick_and_ball=🏑 file_cabinet=🗄",
    "file_folder=📁 film_frames=🎞 film_projector=📽 fire=🔥 fire_engine=🚒 fire_extinguisher=🧯",
    "firecracker=🧨 fireworks=🎆 first_quarter_moon=🌓 first_quarter_moon_face=🌛",
    "first_quarter_moon_with_face=🌛 fish=🐟 fish_cake=🍥 fish_cake_with_swirl=🍥 fishing_pole=🎣",
    "fishing_pole_and_fish=🎣 fist=✊ five=5️⃣ five-thirty=🕠 five_o’clock=🕔 flag_in_hole=⛳ flags=🎏",
    "flamingo=🦩 flashlight=🔦 flat_shoe=🥿 fleur-de-lis=⚜ fleur__de__lis=⚜ ~flexed_biceps=💪",
    "flipper=🐬 floppy_disk=💾 flower_playing_cards=🎴 flushed=😳 flushed_face=😳 flying_disc=🥏",
    "flying_saucer=🛸 fog=🌫 foggy=🌁 ~folded_hands=🙏 foot=🦶 football=🏈 footprints=👣 fork_and_knife=🍴",
    "fork_and_knife_with_plate=🍽 fortune_cookie=🥠 fountain=⛲ fountain_pen=🖋 four=4️⃣ four-thirty=🕟",
    "four_leaf_clover=🍀 four_o’clock=🕓 fox_face=🦊 frame_with_picture=🖼 framed_picture=🖼 free=🆓",
    "free_button=🆓 french_fries=🍟 fried_shrimp=🍤 fries=🍟 frog=🐸 frog_face=🐸",
    "front-facing_baby_chick=🐥 frowning=😦 frowning_face=☹ frowning_face_with_open_mouth=😦",
    "fuel_pump=⛽ fuelpump=⛽ full_moon=🌕 full_moon_face=🌝 full_moon_with_face=🌝 funeral_urn=⚱",
    "game_die=🎲 garlic=🧄 gear=⚙ gem=💎 gem_stone=💎 gemini=♊ genie=🧞 ghost=👻 gift=🎁 gift_heart=💝",
    "giraffe=🦒 ~girl=👧 glass_of_milk=🥛 glasses=👓 globe_showing_americas=🌎",
    "globe_showing_asia-australia=🌏 globe_showing_europe-africa=🌍 globe_with_meridians=🌐 gloves=🧤",
    "glowing_star=🌟 goal_net=🥅 goat=🐐 goblin=👺 goggles=🥽 golf=⛳ golfer=🏌 gorilla=🦍",
    "graduation_cap=🎓 grapes=🍇 green_apple=🍏 green_book=📗 green_circle=🟢 green_heart=💚",
    "green_salad=🥗 green_square=🟩 grey_exclamation=❕ grey_question=❔ grimacing=😬 grimacing_face=😬",
    "grin=😁 grinning=😀 grinning_cat_face=😺 grinning_cat_face_with_smiling_eyes=😸 grinning_face=😀",
    "grinning_face_with_big_eyes=😃 grinning_face_with_smiling_eyes=😄 grinning_face_with_sweat=😅",
    "grinning_squinting_face=😆 growing_heart=💗 ~guard=💂 guardsman=💂 guide_dog=🦮 guitar=🎸 gun=🔫",
    "haircut=💇 hamburger=🍔 hammer=🔨 hammer_and_pick=⚒ hammer_and_wrench=🛠 hamster=🐹 hamster_face=🐹",
    "hand=✋ ~hand_with_fingers_splayed=🖐 handbag=👜 handshake=🤝 hankey=💩 hatched_chick=🐥",
    "hatching_chick=🐣 headphone=🎧 headphones=🎧 hear-no-evil_monkey=🙉 hear_no_evil=🙉 heart=❤",
    "heart_decoration=💟 heart_eyes=😍 heart_eyes_cat=😻 heart_suit=♥ heart_with_arrow=💘",
    "heart_with_ribbon=💝 heartbeat=💓 heartpulse=💗 hearts=♥ heavy_check_mark=✔",
    "heavy_division_sign=➗ heavy_dollar_sign=💲 heavy_exclamation_mark=❗ heavy_heart_exclamation=❣",
    "heavy_heart_exclamation_mark_ornament=❣ heavy_large_circle=⭕ heavy_minus_sign=➖",
    "heavy_multiplication_x=✖ heavy_plus_sign=➕ hedgehog=🦔 helicopter=🚁 helm_symbol=⎈",
    "helmet_with_white_cross=⛑ herb=🌿 hibiscus=🌺 high-heeled_shoe=👠 high-speed_train=🚄",
    "high_brightness=🔆 high_heel=👠 high_voltage=⚡ hiking_boot=🥾 hindu_temple=🛕 hippopotamus=🦛",
    "hocho=🔪 hole=🕳 honey_pot=🍯 honeybee=🐝 horizontal_traffic_light=🚥 horse=🐴 horse_face=🐴",
    "~horse_racing=🏇 hospital=🏥 hot_beverage=☕ hot_dog=🌭 hot_face=🥵 hot_pepper=🌶 hot_springs=♨",
    "hotel=🏨 hotsprings=♨ hourglass=⌛ hourglass_done=⌛ hourglass_flowing_sand=⏳",
    "hourglass_not_done=⏳ house=🏠 house_buildings=🏘 house_with_garden=🏡 houses=🏘 hugging_face=🤗",
    "hundred_points=💯 hushed=😯 hushed_face=😯"]

end ScriptAdvisor.Emoji
