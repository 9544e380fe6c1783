/-! # Named emoji, t to z

Names that start with a letter from t to z. -/

namespace ScriptAdvisor.Emoji

/-- Names and characters. A tilde marks what has skin tones. -/
def namesTToZ : List String :=
  ["t-rex=🦖 t-shirt=👕 table_tennis_paddle_and_ball=🏓 taco=🌮 tada=🎉 takeout_box=🥡 tanabata_tree=🎋",
    "tangerine=🍊 taurus=♉ taxi=🚕 tea=🍵 teacup_without_handle=🍵 tear-off_calendar=📆 teddy_bear=🧸",
    "telephone=☎ telephone_receiver=📞 telescope=🔭 television=📺 ten=🔟 ten-thirty=🕥 ten_o’clock=🕙",
    "tennis=🎾 tent=⛺ test_tube=🧪 thermometer=🌡 thinking_face=🤔 thought_balloon=💭 thread=🧵",
    "three=3️⃣ three-thirty=🕞 three_button_mouse=🖱 three_o’clock=🕒 ~thumbs_down=👎 ~thumbs_up=👍",
    "thumbsdown=👎 thumbsup=👍 thunder_cloud_and_rain=⛈ ticket=🎫 tiger=🐯 tiger2=🐅 tiger_face=🐯",
    "timer_clock=⏲ tired_face=😫 tm=™ toilet=🚽 tokyo_tower=🗼 tomato=🍅 tongue=👅 toolbox=🧰 tooth=🦷",
    "top=🔝 top_arrow=🔝 top_hat=🎩 tophat=🎩 tornado=🌪 trackball=🖲 tractor=🚜 trade_mark=™",
    "traffic_light=🚥 train=🚋 train2=🚆 tram=🚊 tram_car=🚋 triangular_flag=🚩",
    "triangular_flag_on_post=🚩 triangular_ruler=📐 trident=🔱 trident_emblem=🔱 triumph=😤",
    "trolleybus=🚎 trophy=🏆 tropical_drink=🍹 tropical_fish=🐠 truck=🚚 trumpet=🎺 tshirt=👕 tulip=🌷",
    "tumbler_glass=🥃 turkey=🦃 turtle=🐢 tv=📺 twelve-thirty=🕧 twelve_o’clock=🕛",
    "twisted_rightwards_arrows=🔀 two=2️⃣ two-hump_camel=🐫 two-thirty=🕝 two_hearts=💕",
    "two_men_holding_hands=👬 two_o’clock=🕑 two_women_holding_hands=👭 u5272=🈹 u5408=🈴 u55b6=🈺",
    "u6307=🈯 u6708=🈷 u6709=🈶 u6e80=🈵 u7121=🈚 u7533=🈸 u7981=🈲 u7a7a=🈳 umbrella=☂",
    "umbrella_on_ground=⛱ umbrella_with_rain_drops=☔ unamused=😒 unamused_face=😒 underage=🔞",
    "unicorn_face=🦄 unlock=🔓 unlocked=🔓 up=🆙 up!_button=🆙 up-down_arrow=↕ up-left_arrow=↖",
    "up-right_arrow=↗ up_arrow=⬆ upside-down_face=🙃 upside__down_face=🙃 upwards_button=🔼 v=✌",
    "~vampire=🧛 vertical_traffic_light=🚦 vhs=📼 vibration_mode=📳 ~victory_hand=✌ video_camera=📹",
    "video_game=🎮 videocassette=📼 violin=🎻 virgo=♍ volcano=🌋 volleyball=🏐 vs=🆚 vs_button=🆚",
    "~vulcan_salute=🖖 waffle=🧇 wales=🏴󠁧󠁢󠁷󠁬󠁳󠁿 walking=🚶 waning_crescent_moon=🌘",
    "waning_gibbous_moon=🌖 warning=⚠ wastebasket=🗑 watch=⌚ water_buffalo=🐃 water_closet=🚾",
    "water_wave=🌊 watermelon=🍉 wave=👋 waving_black_flag=🏴 ~waving_hand=👋 waving_white_flag=🏳",
    "wavy_dash=〰 waxing_crescent_moon=🌒 waxing_gibbous_moon=🌔 wc=🚾 weary=😩 weary_cat_face=🙀",
    "weary_face=😩 wedding=💒 weight_lifter=🏋 whale=🐳 whale2=🐋 wheel_of_dharma=☸ wheelchair=♿",
    "wheelchair_symbol=♿ white-haired_man=👨‍🦳 white-haired_woman=👩‍🦳 white_check_mark=✅",
    "white_circle=⚪ white_exclamation_mark=❕ white_flag=🏳 white_flower=💮 white_frowning_face=☹",
    "white_hair=🦳 white_heart=🤍 white_heavy_check_mark=✅ white_large_square=⬜",
    "white_medium-small_square=◽ white_medium_small_square=◽ white_medium_square=◻",
    "white_medium_star=⭐ white_question_mark=❔ white_small_square=▫ white_square_button=🔳",
    "white_sun_behind_cloud=🌥 white_sun_behind_cloud_with_rain=🌦 white_sun_with_small_cloud=🌤",
    "wilted_flower=🥀 wind_blowing_face=🌬 wind_chime=🎐 wind_face=🌬 wine_glass=🍷 wink=😉",
    "winking_face=😉 winking_face_with_tongue=😜 wolf=🐺 wolf_face=🐺 ~woman=👩 ~woman_artist=👩‍🎨",
    "~woman_astronaut=👩‍🚀 ~woman_biking=🚴‍♀️ ~woman_bouncing_ball=⛹️‍♀️ ~woman_bowing=🙇‍♀️",
    "~woman_cartwheeling=🤸‍♀️ ~woman_climbing=🧗‍♀️ ~woman_construction_worker=👷‍♀️ ~woman_cook=👩‍🍳",
    "~woman_dancing=💃 ~woman_detective=🕵️‍♀️ ~woman_elf=🧝‍♀️ ~woman_facepalming=🤦‍♀️",
    "~woman_factory_worker=👩‍🏭 ~woman_fairy=🧚‍♀️ ~woman_farmer=👩‍🌾 ~woman_firefighter=👩‍🚒",
    "~woman_frowning=🙍‍♀️ woman_genie=🧞‍♀️ ~woman_gesturing_no=🙅‍♀️ ~woman_gesturing_ok=🙆‍♀️",
    "~woman_getting_haircut=💇‍♀️ ~woman_getting_massage=💆‍♀️ ~woman_golfing=🏌️‍♀️",
    "~woman_guard=💂‍♀️ ~woman_health_worker=👩‍⚕️ ~woman_in_lotus_position=🧘‍♀️",
    "woman_in_manual_wheelchair=👩‍🦽 woman_in_motorized_wheelchair=👩‍🦼 ~woman_in_steamy_room=🧖‍♀️",
    "~woman_judge=👩‍⚖️ ~woman_juggling=🤹‍♀️ ~woman_lifting_weights=🏋️‍♀️ ~woman_mage=🧙‍♀️",
    "~woman_mechanic=👩‍🔧 ~woman_mountain_biking=🚵‍♀️ ~woman_office_worker=👩‍💼 ~woman_pilot=👩‍✈️",
    "~woman_playing_handball=🤾‍♀️ ~woman_playing_water_polo=🤽‍♀️ ~woman_police_officer=👮‍♀️",
    "~woman_pouting=🙎‍♀️ ~woman_raising_hand=🙋‍♀️ ~woman_rowing_boat=🚣‍♀️ ~woman_running=🏃‍♀️",
    "~woman_scientist=👩‍🔬 ~woman_shrugging=🤷‍♀️ ~woman_singer=👩‍🎤 ~woman_student=👩‍🎓",
    "~woman_surfing=🏄‍♀️ ~woman_swimming=🏊‍♀️ ~woman_teacher=👩‍🏫 ~woman_technologist=👩‍💻",
    "~woman_tipping_hand=💁‍♀️ ~woman_vampire=🧛‍♀️ ~woman_walking=🚶‍♀️ ~woman_wearing_turban=👳‍♀️",
    "~woman_with_headscarf=🧕 woman_with_probing_cane=👩‍🦯 woman_zombie=🧟‍♀️ womans_clothes=👚",
    "womans_hat=👒 woman’s_boot=👢 woman’s_clothes=👚 woman’s_hat=👒 woman’s_sandal=👡",
    "women_with_bunny_ears=👯‍♀️ women_wrestling=🤼‍♀️ womens=🚺 women’s_room=🚺 woozy_face=🥴",
    "world_map=🗺 worried=😟 worried_face=😟 wrapped_gift=🎁 wrench=🔧 ~writing_hand=✍ x=❌ yarn=🧶",
    "yawning_face=🥱 yellow_circle=🟡 yellow_heart=💛 yellow_square=🟨 yen=💴 yen_banknote=💴 yin_yang=☯",
    "yo-yo=🪀 yum=😋 zany_face=🤪 zap=⚡ zebra=🦓 zero=0️⃣ zipper-mouth_face=🤐 zipper__mouth_face=🤐",
    "zombie=🧟 zzz=💤"]

end ScriptAdvisor.Emoji
