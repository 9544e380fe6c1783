/-! # Named emoji, a to c

Names that start with a letter from a to c, or with no letter. -/

namespace ScriptAdvisor.Emoji

/-- Names and characters. A tilde marks what has skin tones. -/
def namesAToC : List String :=
  ["+1=👍 -1=👎 100=💯 1234=🔢 1st_place_medal=🥇 2nd_place_medal=🥈 3rd_place_medal=🥉 8ball=🎱 __1=👎",
    "a=🅰 a_button_(blood_type)=🅰 ab=🆎 ab_button_(blood_type)=🆎 abacus=🧮 abc=🔤 abcd=🔡 accept=🉑",
    "adhesive_bandage=🩹 admission_tickets=🎟 ~adult=🧑 aerial_tramway=🚡 airplane=✈",
    "airplane_arrival=🛬 airplane_arriving=🛬 airplane_departure=🛫 alarm_clock=⏰ alembic=⚗ alien=👽",
    "alien_monster=👾 ambulance=🚑 american_football=🏈 amphora=🏺 anchor=⚓ angel=👼 anger=💢",
    "anger_symbol=💢 angry=😠 angry_face=😠 angry_face_with_horns=👿 anguished=😧 anguished_face=😧",
    "ant=🐜 antenna_bars=📶 anxious_face_with_sweat=😰 apple=🍎 aquarius=♒ aries=♈ arrow_backward=◀",
    "arrow_double_down=⏬ arrow_double_up=⏫ arrow_down=⬇ arrow_down_small=🔽 arrow_forward=▶",
    "arrow_heading_down=⤵ arrow_heading_up=⤴ arrow_left=⬅ arrow_lower_left=↙ arrow_lower_right=↘",
    "arrow_right=➡ arrow_right_hook=↪ arrow_up=⬆ arrow_up_down=↕ arrow_up_small=🔼",
    "arrow_upper_left=↖ arrow_upper_right=↗ arrows_clockwise=🔃 arrows_counterclockwise=🔄 art=🎨",
    "articulated_lorry=🚛 artist_palette=🎨 astonished=😲 astonished_face=😲 athletic_shoe=👟 atm=🏧",
    "atm_sign=🏧 atom_symbol=⚛ auto_rickshaw=🛺 automobile=🚗 avocado=🥑 axe=🪓 b=🅱",
    "b_button_(blood_type)=🅱 ~baby=👶 ~baby_angel=👼 baby_bottle=🍼 baby_chick=🐤 baby_symbol=🚼 back=🔙",
    "back_arrow=🔙 ~backhand_index_pointing_down=👇 ~backhand_index_pointing_left=👈",
    "~backhand_index_pointing_right=👉 ~backhand_index_pointing_up=👆 bacon=🥓 badger=🦡 badminton=🏸",
    "badminton_racquet_and_shuttlecock=🏸 bagel=🥯 baggage_claim=🛄 baguette_bread=🥖 balance_scale=⚖",
    "bald=🦲 bald_man=👨‍🦲 bald_woman=👩‍🦲 ballet_shoes=🩰 balloon=🎈 ballot_box_with_ballot=🗳",
    "ballot_box_with_check=☑ bamboo=🎍 banana=🍌 bangbang=‼ banjo=🪕 bank=🏦 bar_chart=📊 barber=💈",
    "barber_pole=💈 baseball=⚾ basket=🧺 basketball=🏀 bat=🦇 bath=🛀 bathtub=🛁 battery=🔋",
    "beach_with_umbrella=🏖 beaming_face_with_smiling_eyes=😁 bear=🐻 bear_face=🐻 ~bearded_person=🧔",
    "beating_heart=💓 bed=🛏 bee=🐝 beer=🍺 beer_mug=🍺 beers=🍻 beetle=🐞 beginner=🔰 bell=🔔",
    "bell_with_slash=🔕 bellhop_bell=🛎 bento=🍱 bento_box=🍱 beverage_box=🧃 bicycle=🚲 bicyclist=🚴",
    "bike=🚲 bikini=👙 billed_cap=🧢 biohazard=☣ biohazard_sign=☣ bird=🐦 birthday=🎂 birthday_cake=🎂",
    "black_circle=⚫ black_circle_for_record=⏺ black_flag=🏴 black_heart=🖤 black_joker=🃏",
    "black_large_square=⬛ black_left__pointing_double_triangle_with_vertical_bar=⏮",
    "black_medium-small_square=◾ black_medium_small_square=◾ black_medium_square=◼ black_nib=✒",
    "black_right__pointing_double_triangle_with_vertical_bar=⏭",
    "black_right__pointing_triangle_with_double_vertical_bar=⏯ black_small_square=▪",
    "black_square_button=🔲 black_square_for_stop=⏹ ~blond-haired_man=👱‍♂️ ~blond-haired_person=👱",
    "~blond-haired_woman=👱‍♀️ blossom=🌼 blowfish=🐡 blue_book=📘 blue_car=🚙 blue_circle=🔵",
    "blue_heart=💙 blue_square=🟦 blush=😊 boar=🐗 boat=⛵ bomb=💣 bone=🦴 book=📖 bookmark=🔖",
    "bookmark_tabs=📑 books=📚 boom=💥 boot=👢 bottle_with_popping_cork=🍾 bouquet=💐 bow=🙇",
    "bow_and_arrow=🏹 bowl_with_spoon=🥣 bowling=🎳 boxing_glove=🥊 ~boy=👦 brain=🧠 bread=🍞",
    "~breast-feeding=🤱 brick=🧱 ~bride_with_veil=👰 bridge_at_night=🌉 briefcase=💼 briefs=🩲",
    "bright_button=🔆 broccoli=🥦 broken_heart=💔 broom=🧹 brown_circle=🟤 brown_heart=🤎 brown_square=🟫",
    "bug=🐛 building_construction=🏗 bulb=💡 bullet_train=🚅 bullettrain_front=🚅 bullettrain_side=🚄",
    "burrito=🌯 bus=🚌 bus_stop=🚏 busstop=🚏 bust_in_silhouette=👤 busts_in_silhouette=👥 butter=🧈",
    "butterfly=🦋 cactus=🌵 cake=🍰 calendar=📆 ~call_me_hand=🤙 calling=📲 camel=🐫 camera=📷",
    "camera_with_flash=📸 camping=🏕 cancer=♋ candle=🕯 candy=🍬 canned_food=🥫 canoe=🛶 capital_abcd=🔠",
    "capricorn=♑ car=🚗 card_file_box=🗃 card_index=📇 card_index_dividers=🗂 carousel_horse=🎠",
    "carp_streamer=🎏 carrot=🥕 castle=🏰 cat=🐱 cat2=🐈 cat_face=🐱 cat_face_with_tears_of_joy=😹",
    "cat_face_with_wry_smile=😼 cd=💿 chains=⛓ chair=🪑 chart=💹 chart_decreasing=📉 chart_increasing=📈",
    "chart_increasing_with_yen=💹 chart_with_downwards_trend=📉 chart_with_upwards_trend=📈",
    "checkered_flag=🏁 cheese_wedge=🧀 chequered_flag=🏁 cherries=🍒 cherry_blossom=🌸 chess_pawn=♟",
    "chestnut=🌰 chicken=🐔 ~child=🧒 children_crossing=🚸 chipmunk=🐿 chocolate_bar=🍫 chopsticks=🥢",
    "christmas_tree=🎄 church=⛪ cigarette=🚬 cinema=🎦 circled_m=Ⓜ circus_tent=🎪 city_sunrise=🌇",
    "city_sunset=🌆 cityscape=🏙 cityscape_at_dusk=🌆 cl=🆑 cl_button=🆑 clamp=🗜 clap=👏 clapper=🎬",
    "clapper_board=🎬 ~clapping_hands=👏 classical_building=🏛 clinking_beer_mugs=🍻",
    "clinking_glasses=🥂 clipboard=📋 clock1=🕐 clock10=🕙 clock1030=🕥 clock11=🕚 clock1130=🕦 clock12=🕛",
    "clock1230=🕧 clock130=🕜 clock2=🕑 clock230=🕝 clock3=🕒 clock330=🕞 clock4=🕓 clock430=🕟 clock5=🕔",
    "clock530=🕠 clock6=🕕 clock630=🕡 clock7=🕖 clock730=🕢 clock8=🕗 clock830=🕣 clock9=🕘 clock930=🕤",
    "clockwise_vertical_arrows=🔃 closed_book=📕 closed_lock_with_key=🔐",
    "closed_mailbox_with_lowered_flag=📪 closed_mailbox_with_raised_flag=📫 closed_umbrella=🌂",
    "cloud=☁ cloud_with_lightning=🌩 cloud_with_lightning_and_rain=⛈ cloud_with_rain=🌧",
    "cloud_with_snow=🌨 cloud_with_tornado=🌪 clown_face=🤡 club_suit=♣ clubs=♣ clutch_bag=👝 coat=🧥",
    "cocktail=🍸 cocktail_glass=🍸 coconut=🥥 coffee=☕ coffin=⚰ cold_face=🥶 cold_sweat=😰 collision=💥",
    "comet=☄ compass=🧭 compression=🗜 computer=💻 computer_disk=💽 computer_mouse=🖱 confetti_ball=🎊",
    "confounded=😖 confounded_face=😖 confused=😕 confused_face=😕 congratulations=㊗ construction=🚧",
    "~construction_worker=👷 control_knobs=🎛 convenience_store=🏪 cooked_rice=🍚 cookie=🍪 cooking=🍳",
    "cool=🆒 cool_button=🆒 cop=👮 copyright=© corn=🌽 couch_and_lamp=🛋",
    "counterclockwise_arrows_button=🔄 couple=👫 couple_with_heart=💑",
    "couple_with_heart_man_man=👨‍❤️‍👨 couple_with_heart_woman_man=👩‍❤️‍👨",
    "couple_with_heart_woman_woman=👩‍❤️‍👩 couplekiss=💏 cow=🐮 cow2=🐄 cow_face=🐮 cowboy_hat_face=🤠",
    "crab=🦀 crayon=🖍 credit_card=💳 crescent_moon=🌙 cricket=🦗 cricket_bat_and_ball=🏏 cricket_game=🏏",
    "crocodile=🐊 croissant=🥐 cross_mark=❌ cross_mark_button=❎ ~crossed_fingers=🤞 crossed_flags=🎌",
    "crossed_swords=⚔ crown=👑 cry=😢 crying_cat_face=😿 crying_face=😢 crystal_ball=🔮 cucumber=🥒",
    "cup_with_straw=🥤 cupcake=🧁 cupid=💘 curling_stone=🥌 curly-haired_man=👨‍🦱",
    "curly-haired_woman=👩‍🦱 curly_hair=🦱 curly_loop=➰ currency_exchange=💱 curry=🍛 curry_rice=🍛",
    "custard=🍮 customs=🛃 cut_of_meat=🥩 cyclone=🌀"]

end ScriptAdvisor.Emoji
