/-! # Named flags

A flag is written with the two letters that stand for its country. The letters and the names of the
countries are listed here. -/

namespace ScriptAdvisor.Emoji

/-- Countries whose name stands for their flag, alone and behind `flag_for_`. -/
def countries : List String :=
  ["AF=afghanistan AL=albania DZ=algeria AS=american_samoa AD=andorra AO=angola AI=anguilla",
    "AQ=antarctica AG=antigua_&_barbuda AR=argentina AM=armenia AW=aruba AC=ascension_island",
    "AU=australia AT=austria AZ=azerbaijan BS=bahamas BH=bahrain BD=bangladesh BB=barbados",
    "BY=belarus BE=belgium BZ=belize BJ=benin BM=bermuda BT=bhutan BO=bolivia",
    "BA=bosnia_&_herzegovina BW=botswana BV=bouvet_island BR=brazil",
    "IO=british_indian_ocean_territory VG=british_virgin_islands BN=brunei BG=bulgaria",
    "BF=burkina_faso BI=burundi KH=cambodia CM=cameroon CA=canada IC=canary_islands CV=cape_verde",
    "BQ=caribbean_netherlands KY=cayman_islands CF=central_african_republic EA=ceuta_&_melilla",
    "TD=chad CL=chile CN=china CX=christmas_island CP=clipperton_island CO=colombia KM=comoros",
    "CK=cook_islands CR=costa_rica HR=croatia CU=cuba CW=curaçao CY=cyprus CI=côte_d’ivoire",
    "DK=denmark DG=diego_garcia DJ=djibouti DM=dominica DO=dominican_republic EC=ecuador EG=egypt",
    "SV=el_salvador GQ=equatorial_guinea ER=eritrea EE=estonia ET=ethiopia EU=european_union",
    "FK=falkland_islands FO=faroe_islands FJ=fiji FI=finland FR=france GF=french_guiana",
    "PF=french_polynesia TF=french_southern_territories GA=gabon GM=gambia GE=georgia DE=germany",
    "GH=ghana GI=gibraltar GR=greece GL=greenland GD=grenada GP=guadeloupe GU=guam GT=guatemala",
    "GG=guernsey GN=guinea GY=guyana HT=haiti HM=heard_&_mcdonald_islands HN=honduras HU=hungary",
    "IS=iceland IN=india ID=indonesia IR=iran IQ=iraq IE=ireland IM=isle_of_man IL=israel IT=italy",
    "JM=jamaica JE=jersey JO=jordan KZ=kazakhstan KE=kenya KI=kiribati XK=kosovo KW=kuwait",
    "KG=kyrgyzstan LA=laos LV=latvia LB=lebanon LS=lesotho LR=liberia LY=libya LI=liechtenstein",
    "LT=lithuania LU=luxembourg MK=macedonia MG=madagascar MW=malawi MY=malaysia MV=maldives",
    "ML=mali MT=malta MH=marshall_islands MQ=martinique MR=mauritania MU=mauritius YT=mayotte",
    "MX=mexico FM=micronesia MD=moldova MC=monaco MN=mongolia ME=montenegro MS=montserrat",
    "MA=morocco MZ=mozambique NA=namibia NR=nauru NP=nepal NL=netherlands NC=new_caledonia",
    "NZ=new_zealand NI=nicaragua NE=niger NG=nigeria NU=niue NF=norfolk_island KP=north_korea",
    "MP=northern_mariana_islands NO=norway OM=oman PK=pakistan PW=palau PS=palestinian_territories",
    "PA=panama PG=papua_new_guinea PY=paraguay PE=peru PH=philippines PN=pitcairn_islands",
    "PL=poland PT=portugal PR=puerto_rico QA=qatar RO=romania RU=russia RW=rwanda RE=réunion",
    "WS=samoa SM=san_marino SA=saudi_arabia SN=senegal RS=serbia SC=seychelles SL=sierra_leone",
    "SG=singapore SX=sint_maarten SK=slovakia SI=slovenia SB=solomon_islands SO=somalia",
    "ZA=south_africa GS=south_georgia_&_south_sandwich_islands KR=south_korea SS=south_sudan",
    "ES=spain LK=sri_lanka BL=st._barthélemy SH=st._helena KN=st._kitts_&_nevis LC=st._lucia",
    "MF=st._martin PM=st._pierre_&_miquelon VC=st._vincent_&_grenadines SD=sudan SR=suriname",
    "SJ=svalbard_&_jan_mayen SZ=swaziland SE=sweden CH=switzerland SY=syria ST=são_tomé_&_príncipe",
    "TW=taiwan TJ=tajikistan TZ=tanzania TH=thailand TG=togo TK=tokelau TO=tonga",
    "TT=trinidad_&_tobago TA=tristan_da_cunha TN=tunisia TM=turkmenistan TC=turks_&_caicos_islands",
    "TV=tuvalu UM=u.s._outlying_islands VI=u.s._virgin_islands UG=uganda UA=ukraine",
    "AE=united_arab_emirates GB=united_kingdom US=united_states UY=uruguay UZ=uzbekistan",
    "VU=vanuatu VA=vatican_city VE=venezuela VN=vietnam WF=wallis_&_futuna EH=western_sahara",
    "YE=yemen ZM=zambia ZW=zimbabwe AX=åland_islands"]

/-- Countries whose name stands for their flag behind `flag_for_` only. -/
def countriesBehindFlag : List String :=
  ["CC=cocos__islands CG=congo____brazzaville CD=congo____kinshasa CZ=czech_republic",
    "GW=guinea__bissau HK=hong_kong JP=japan MO=macau MM=myanmar TL=timor__leste TR=turkey"]

/-- Countries whose name stands for their flag alone only. -/
def countriesAlone : List String :=
  ["CC=cocos_(keeling)_islands CG=congo_-_brazzaville CD=congo_-_kinshasa CZ=czechia",
    "GW=guinea-bissau HK=hong_kong_sar_china MO=macau_sar_china MM=myanmar_(burma) TL=timor-leste",
    "UN=united_nations"]

end ScriptAdvisor.Emoji
