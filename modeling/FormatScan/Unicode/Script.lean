import FormatScan.Unicode.RangeCode
/-!
Scripts: the one that a character belongs to, and all those that use it.
-/

namespace FormatScan.Unicode

structure Script where
  names : List String
  /-- The characters that belong to the script. -/
  ownCode : String
  /-- The characters that the script uses. -/
  useCode : String

namespace Script

def all : List Script := [
  ⟨["adlm", "adlam"],
    "D!I0Cb4941",
    "BQv0B00GQe0DPh0DOVuCb4941"⟩,
  ⟨["aghb", "caucasianalbanian"],
    "CBJgBjb0",
    "Y40Bc0Bc0CAOhBjb0"⟩,
  ⟨["ahom"],
    "CFY0q2e4m",
    "CFY0q2e4m"⟩,
  ⟨["arab", "arabic"],
    "BQ04151d121v19bp1Db1B1CgBfHgu115Ca1sB$SgDigLa2Cf2Bl70B0fDg41E6D#3uC32Bn3BXY031q111020191" ++
      "3101060401010121110201010101011102316131310191g52141gBk1",
    "BQ041Gm1B1CgBfHgu115Ca1sF!f0DPh0BTIeDigNs2Bl70B0fDg41E6*3rC#4uC32Bn3BXY031q1110201913101" ++
      "060401010121110201010101011102316131310191g52141gBk1"⟩,
  ⟨["armi", "imperialaramaic"],
    "CCC0l18",
    "CCC0l18"⟩,
  ⟨["armn", "armenian"],
    "BJhB52Bh22B%M34",
    "Y80R8B52Bh22B%M34"⟩,
  ⟨["avst", "avestan"],
    "CCY0Bl36",
    "Fn0LLo1BXGeBl36"⟩,
  ⟨["bali", "balinese"],
    "GY0Cc1Bh",
    "GY0Cc1Bh"⟩,
  ⟨["bamu", "bamum"],
    "BJV0CnBQI8Ro",
    "BJV0CnBQI8Ro"⟩,
  ⟨["bass", "bassavah"],
    "C!Wgt25",
    "C!Wgt25"⟩,
  ⟨["batk", "batak"],
    "G&0Bj83",
    "G&0Bj83"⟩,
  ⟨["beng", "bengali"],
    "CM0317212l1610332821238041142o",
    "Vs0BUk1h1q317212l1610332821238041142oEWh01021108080204022BC*p0"⟩,
  ⟨["bhks", "bhaiksuki"],
    "CHA081Bc1das",
    "CHA081Bc1das"⟩,
  ⟨["bopo", "bopomofo"],
    "Xa1LQpBaDgv",
    "W7012d0g1LIl2491ca32060G309BaDgvBTE51Iq4"⟩,
  ⟨["brah", "brahmi"],
    "CEA0Cd4B390",
    "CEA0Cd4B390"⟩,
  ⟨["brai", "braille"],
    "KA0Hv",
    "KA0Hv"⟩,
  ⟨["bugi", "buginese"],
    "GQ0r21",
    "GQ0r21BD%f0"⟩,
  ⟨["buhd", "buhid"],
    "F!0j",
    "FZl19j"⟩,
  ⟨["cakm", "chakma"],
    "CEI0Bk1h",
    "CP69BSg9CAFmBk1h"⟩,
  ⟨["cans", "canadianaboriginal"],
    "FA0TvRgC5CANqf",
    "FA0TvRgC5CANqf"⟩,
  ⟨["cari", "carian"],
    "CAV0Bg",
    "Fn0H%2020DOj0BVDeBg"⟩,
  ⟨["cham"],
    "BKQ0Bm9d2923",
    "BKQ0Bm9d2923"⟩,
  ⟨["cher", "cherokee"],
    "E%0Cl25BF#iCf",
    "Y021061m1b1EDeCl25BF#iCf"⟩,
  ⟨["chrs", "chorasmian"],
    "CD%gr",
    "CD%gr"⟩,
  ⟨["copt", "qaac", "coptic"],
    "*2dKEgDj56",
    "Fn0S803110Dc1DcdKEgDj56In0BVG8r"⟩,
  ⟨["cpmn", "cyprominoan"],
    "CL$gD2",
    "CAI01LUeD2"⟩,
  ⟨["cprt", "cypriot"],
    "CCA05201Bb113020",
    "CAI024Bc38BW05201Bb113020"⟩,
  ⟨["cyrl", "cyrillic"],
    "BA0E42F8F!gaF00Cc0ED7v&C0CvV$e1BYQ0BtB10",
    "Vs0C321010102050HeJfF!gaF00Cc0Dv0D*7vC30%*sCvV$e1BYQ0BtB10"⟩,
  ⟨["deva", "devanagari"],
    "CI0Cg4e2pBH#0v$Q09",
    "Vs0BS3Ci2BaE!gB611*m0BBZv9F6v$Q09"⟩,
  ⟨["diak", "divesakuru"],
    "CGI062027111t112b99",
    "CGI062027111t112b99"⟩,
  ⟨["dogr", "dogra"],
    "CGA0Br",
    "CL4bBHW09#&6Br"⟩,
  ⟨["dsrt", "deseret"],
    "CBA0Cf",
    "CBA0Cf"⟩,
  ⟨["dupl", "duployan"],
    "DPA0Da5c387923",
    "Fn0Sf110o1KYn0DDO3Da5c387927"⟩,
  ⟨["egyp", "egyptianhieroglyphs"],
    "CMA0BClaD$q",
    "CMA0BClaD$q"⟩,
  ⟨["elba", "elbasan"],
    "CBI0B7",
    "Fn0Sd0CAPqB7"⟩,
  ⟨["elym", "elymaic"],
    "CD*0m",
    "CD*0m"⟩,
  ⟨["ethi", "ethiopic"],
    "EQ0C8132610132B8132B0132610132e1Bo132C22v3pGP6m9616161616161616*J2525259616CPFh613111e",
    "Ye0DXhC8132610132B8132B0132610132e1Bo132C22v3pGP6m9616161616161616*J2525259616CPFh613111" ++
      "e"⟩,
  ⟨["gara", "garay"],
    "CDK0B53s81",
    "BQc0e030CBZ0B53s81"⟩,
  ⟨["geor", "georgian"],
    "EF0B510502Ba13C$gBa22EC0B51050",
    "Fn0BGh0CYmB510502BfC$gBa22$q0DF5B51050I30"⟩,
  ⟨["glag", "glagolitic"],
    "LA0CvDM%061g261114",
    "Fn0Sb010Lu020I10C#h0D!u0C%5CvP30&Bb0COMg61g261114"⟩,
  ⟨["gong", "gunjalagondi"],
    "CHL05111B4111579",
    "Fn0CFc1CE*q5111B4111579"⟩,
  ⟨["gonm", "masaramgondi"],
    "CHI06111Bb30111889",
    "CL41CE$q6111Bb30111889"⟩,
  ⟨["goth", "gothic"],
    "CAZgq",
    "Fn0Sc120B80B**uq"⟩,
  ⟨["gran", "grantha"],
    "CEY0317212l1611142821222060562634",
    "CKh1h1U0dEGs011u231*m0B$Qf317212l1611141921222060562634DCr110"⟩,
  ⟨["grek", "greek"],
    "#g3122310401012101j1BuefGJ64Bi444Ck0K0l252B525271010101u2Bk1e1d251i2218J70BCRu0VOqCeh0BU" ++
      "CvC5",
    "Fn0S81201010a0Be020Ba72310401012101j1BuefGJ64Bi444Ck2Jul252B525271010101u2Bk1e1d251i2218" ++
      "Cu0G80BCRu0VOqCeh0BUCvC5"⟩,
  ⟨["gujr", "gujarati"],
    "CU1218121l16111429121220f32b76",
    "CKh1h1Ir218121l16111429121220f32b76BHJg9"⟩,
  ⟨["gukh", "gurungkhema"],
    "CYI0Bp",
    "CL50CV$qBp"⟩,
  ⟨["guru", "gurmukhi"],
    "CQ1215412l16111111201441223073107g",
    "CKh1h1Er215412l16111111201441223073107gBHNp9"⟩,
  ⟨["hang", "hangul"],
    "EI0HvHRe1I1CtDhuC1u%X1sU3K%3cm4BgJ%4u35252522",
    "EI0HvHQ12491ce260G30BlCtDhuC1u%X1sU3K%3cm4BgJS91Iq4Bqu35252522"⟩,
  ⟨["hani", "han"],
    "LU0p1CocGlBf010p8e3&4GNvC0UPvWI0Ld2D9%I81c1BEAeBJWvB0EBp6Gt2FU1eHJgfTdCN2QtBP2E!a5ECv",
    "Fn0LO8p1CocGlqf121c1c1c2068Fr0EkfB0B590BgB7BoBgfbBj0Cooa4D0u1GNvC0UPvBY07UPoLd2D9#b1Iq4$" ++
      "Ds1c1Y#ehHWu1DNeBJWvB0EBp6Gt2FU1eHJgfTdCN2QtBP2E!a5ECv"⟩,
  ⟨["hano", "hanunoo"],
    "FZ0k",
    "FZ0m"⟩,
  ⟨["hatr", "hatran"],
    "CCH0i1154",
    "CCH0i1154"⟩,
  ⟨["hebr", "hebrew"],
    "BMhBm8q45B%J8p1410111119",
    "Y71U8Bm8q45B%J8p1410111119"⟩,
  ⟨["hira", "hiragana"],
    "MC1Cl62C*#1Iui0t2QFd0",
    "MA12491cg510413Cl27Cq1BTK81Iq4a0Bd1BMD1Iui0t2QFd0"⟩,
  ⟨["hluw", "anatolianhieroglyphs"],
    "CRA0S6",
    "CRA0S6"⟩,
  ⟨["hmng", "pahawhhmong"],
    "C!Y0C5a9161k5i",
    "C!Y0C5a9161k5i"⟩,
  ⟨["hmnp", "nyiakengpuachuehmong"],
    "DYI0Bc3d2941",
    "DYI0Bc3d2941"⟩,
  ⟨["hung", "oldhungarian"],
    "CDE0BidBi75",
    "ICq020DOj0f0BXRuBidBi75"⟩,
  ⟨["ital", "olditalic"],
    "CAY0B392",
    "CAY0B392"⟩,
  ⟨["java", "javanese"],
    "BKM0Cd2941",
    "BKM0Cd1a41"⟩,
  ⟨["kali", "kayahli"],
    "BKI0Bd10",
    "BKI0Bf"⟩,
  ⟨["kana", "katakana"],
    "MF1Cp22HgfGgBe1CnBTAe91BcBMCi3161110Iv2Bi0e3",
    "Y50t0LGt2491cg51041Cr33CvHgfGgBe1CnBSXd1IqBuBMCg3161110Iv2Bi0e3"⟩,
  ⟨["kawi"],
    "CHY0g1B83s",
    "CHY0g1B83s"⟩,
  ⟨["khar", "kharoshthi"],
    "CCQ031157121s224978",
    "CCQ031157121s224978"⟩,
  ⟨["khmr", "khmer"],
    "F$0Ct2969P6v",
    "F$0Ct2969P6v"⟩,
  ⟨["khoj", "khojki"],
    "CEQ0h1Be",
    "CX69BHK09!O6h1Be"⟩,
  ⟨["kits", "khitansmallscript"],
    "C#*40GYrOlB90",
    "C#*40GYrOlB90"⟩,
  ⟨["knda", "kannada"],
    "DE0c121m19142812137161132912",
    "CKh1h1Yqc121m19142812137161132912D&s01160n010BCZr5"⟩,
  ⟨["krai", "kiratrai"],
    "C#K0Bp",
    "C#K0Bp"⟩,
  ⟨["kthi", "kaithi"],
    "CEE0C2a0",
    "CL69JG10&Pu9!C6C2a0"⟩,
  ⟨["lana", "taitham"],
    "GR0Bu1s2a696d",
    "GR0Bu1s2a696d"⟩,
  ⟨["laoo", "lao"],
    "DU1110141n101m2410161923",
    "DU1110141n101m2410161923"⟩,
  ⟨["latn", "latin"],
    "C1p6pBf0f05m1u1O0B74GQrB56Bg535c1C5C1HvLh0d0gcEd160r0hB8CWnv&V2D53C2211017ldZgBa1813T$m6" ++
      "BAqp6pCB551B918BV!5u65",
    "C1p6pBf0c0205m1u1O030a01210901064re1110c0227111B60504cIl1BGa1B%80DA4B56Bg535c1C5Bp07HvJf" ++
      "0C10d0gcCj0Bp160r0hB8CWnvMn0&H87qD53C2211017ldJe0Q1Ba1813T$m6BAqp6pCB551B918BV!5u65"⟩,
  ⟨["lepc", "lepcha"],
    "HA0Bn3e32",
    "HA0Bn3e32"⟩,
  ⟨["limb", "limbu"],
    "GI0u1b4b403b",
    "CL50D$qu1b4b403b"⟩,
  ⟨["lina", "lineara"],
    "CBQ0Jm9la7",
    "CAI7BcBGcJm9la7"⟩,
  ⟨["linb", "linearb"],
    "CAA0b1p1i111e2dB2Dq",
    "CAA0b1p1i111e2dB2Dq524Bc38"⟩,
  ⟨["lisu"],
    "BJGgBf&Vg0",
    "Vs0g0LJs1%G4Bf&Vg0"⟩,
  ⟨["lyci", "lycian"],
    "CAU0s",
    "ICq0BYR5s"⟩,
  ⟨["lydi", "lydian"],
    "CCJ0p50",
    "Fn0LLp0BWXep50"⟩,
  ⟨["mahj", "mahajani"],
    "CEKgB6",
    "Fn0CFcbBHW09!ImB6"⟩,
  ⟨["maka", "makasar"],
    "CHX0o",
    "CHX0o"⟩,
  ⟨["mand", "mandaic"],
    "CC0r20",
    "BS00Pvr20"⟩,
  ⟨["mani", "manichaean"],
    "CCW0B64b",
    "BS00CBDvB64b"⟩,
  ⟨["marc", "marchen"],
    "CHDgv2l1d",
    "CHDgv2l1d"⟩,
  ⟨["medf", "medefaidrin"],
    "C#S0Cq",
    "C#S0Cq"⟩,
  ⟨["mend", "mendekikakui"],
    "D!A0G42f",
    "D!A0G42f"⟩,
  ⟨["merc", "meroiticcursive"],
    "CCN0n4j2Bd",
    "CCN0n4j2Bd"⟩,
  ⟨["mero", "meroitichieroglyphs"],
    "CCM0v",
    "ICt0B!J2v"⟩,
  ⟨["mlym", "malayalam"],
    "DI0c121Bi12154f2p",
    "CKh1h1$qc121Bi12154f2pD!q0n0BCZt2"⟩,
  ⟨["modi"],
    "CFQ0C4b9",
    "BKBg9#O6C4b9"⟩,
  ⟨["mong", "mongolian"],
    "GA01201j6Co7BaB*Nlc",
    "GA0p6Co7BaB$40D&h153BZSkc"⟩,
  ⟨["mroo", "mro"],
    "C!S0u1941",
    "C!S0u1941"⟩,
  ⟨["mtei", "meeteimayek"],
    "BKX0mG9Bd29",
    "BKX0mG9Bd29"⟩,
  ⟨["mult", "multani"],
    "CEU0610131e1a",
    "CT69CCAg610131e1a"⟩,
  ⟨["mymr", "myanmar"],
    "EA0EvBGK0uD1v#Cgj",
    "EA0EvBGEe0FhuD1v#Cgj"⟩,
  ⟨["nagm", "nagmundari"],
    "DZGgB9",
    "DZGgB9"⟩,
  ⟨["nand", "nandinagari"],
    "CGN072Bd2a",
    "CL41$09D*p08070BCZl5$La72Bd2a"⟩,
  ⟨["narb", "oldnortharabian"],
    "CCU0v",
    "CCU0v"⟩,
  ⟨["nbat", "nabataean"],
    "CCE0u88",
    "CCE0u88"⟩,
  ⟨["newa"],
    "CFA0Cr14",
    "CFA0Cr14"⟩,
  ⟨["nkoo", "nko"],
    "B&0Bq22",
    "BQc0e030N0Bq22B%Ju1"⟩,
  ⟨["nshu", "nushu"],
    "C#*10QMeMb",
    "C#*10QMeMb"⟩,
  ⟨["ogam", "ogham"],
    "FU0s",
    "FU0s"⟩,
  ⟨["olck", "olchiki"],
    "HCgBf",
    "HCgBf"⟩,
  ⟨["onao", "olonal"],
    "DZOgBa40",
    "CL41DXDaBa40"⟩,
  ⟨["orkh", "oldturkic"],
    "CDA0C8",
    "ICq0DOl0BXOfC8"⟩,
  ⟨["orya", "oriya"],
    "CY1217212l1611142821227241142h",
    "CKh1h1Mr217212l1611142821227241142hEL20n0"⟩,
  ⟨["osge", "osage"],
    "CBFgB34B3",
    "Y102060Cc0CAKnB34B3"⟩,
  ⟨["osma", "osmanya"],
    "CBE0t29",
    "CBE0t29"⟩,
  ⟨["ougr", "olduyghur"],
    "CD#gp",
    "BS00CBFh0BDtp"⟩,
  ⟨["palm", "palmyrene"],
    "CCD0v",
    "CCD0v"⟩,
  ⟨["pauc", "paucinhau"],
    "CGW0Bo",
    "CGW0Bo"⟩,
  ⟨["perm", "oldpermic"],
    "CA!gBa",
    "Fn0S8052a0Lf0B*WcBa"⟩,
  ⟨["phag", "phagspa"],
    "BKC0Bn",
    "GA2110CB90D&i0&BtBn"⟩,
  ⟨["phli", "inscriptionalpahlavi"],
    "CC#0i57",
    "CC#0i57"⟩,
  ⟨["phlp", "psalterpahlavi"],
    "CC$0h73c6",
    "BS00CBJvh73c6"⟩,
  ⟨["phnx", "phoenician"],
    "CCI0r30",
    "CCI0r30"⟩,
  ⟨["plrd", "miao"],
    "C#Y0Ca4Bo7g",
    "C#Y0Ca4Bo7g"⟩,
  ⟨["prti", "inscriptionalparthian"],
    "CC!0l27",
    "CC!0l27"⟩,
  ⟨["qaai", "zinh", "inherited"],
    "Y0DfIl1O4aq0X03EKruQ121c16406031G6BvQc1G2B0DZp3Db1BTL5fgd&f0H20ECq0BO&4Bd2mR02h726u3YL!i" ++
      "Hf",
    "Yf0201b1136202f111h1413BPg1EKruXjBl1014Qc1G2vBXIgfgd&f0BTI2Bd2mR02h726u3YL!iHf"⟩,
  ⟨["rjng", "rejang"],
    "BKJgB3b0",
    "BKJgB3b0"⟩,
  ⟨["rohg", "hanifirohingya"],
    "CDI0B789",
    "BQc0e030B00Ej0CBRbB789"⟩,
  ⟨["runr", "runic"],
    "FV0Ca3a",
    "FV0Co"⟩,
  ⟨["samr", "samaritan"],
    "CA0Bd2e",
    "CA0Bd2eJPi0"⟩,
  ⟨["sarb", "oldsoutharabian"],
    "CCT0v",
    "CCT0v"⟩,
  ⟨["saur", "saurashtra"],
    "BKE0C58b",
    "BKE0C58b"⟩,
  ⟨["sgnw", "signwriting"],
    "DWA0Ubf41e",
    "DWA0Ubf41e"⟩,
  ⟨["shaw", "shavian"],
    "CBCgBf",
    "Fn0CA$oBf"⟩,
  ⟨["shrd", "sharada"],
    "CEM0Cv",
    "CKh0E$50102120BC!f520!K7Cv"⟩,
  ⟨["sidd", "siddham"],
    "CFM0Bl2B5",
    "CFM0Bl2B5"⟩,
  ⟨["sind", "khudawadi"],
    "CEVgBq59",
    "CL41BHWa9!TmBq59"⟩,
  ⟨["sinh", "sinhala"],
    "DM121h3n181026304510176922CA*cj",
    "CL41BAr21h3n181026304510176922DXt0B%Hej"⟩,
  ⟨["sogd", "sogdian"],
    "CDZgB9",
    "BS00CCHfB9"⟩,
  ⟨["sogo", "oldsogdian"],
    "CDY0B7",
    "CDY0B7"⟩,
  ⟨["sora", "sorasompeng"],
    "CEGgo79",
    "CEGgo79"⟩,
  ⟨["soyo", "soyombo"],
    "CGSgCi",
    "CGSgCi"⟩,
  ⟨["sund", "sundanese"],
    "G$0BvI07",
    "G$0BvI07"⟩,
  ⟨["sunu", "sunuwar"],
    "CG&0B1e9",
    "Y01109020s030CGEeB1e9"⟩,
  ⟨["sylo", "sylotinagri"],
    "BKA0Bc",
    "CL41E09BHQgBc"⟩,
  ⟨["syrc", "syriac"],
    "BY0d1Br22Iga",
    "Y312110l0227110Wr0e120B00aaq0Efd1Br22IgaFMd010"⟩,
  ⟨["tagb", "tagbanwa"],
    "F#0c1211",
    "FZl1B9c1211"⟩,
  ⟨["takr", "takri"],
    "CFU0Bp69",
    "CL41BHWa9#S6Bp69"⟩,
  ⟨["tale", "taile"],
    "GKgt24",
    "Y015130DJj9CI6t24"⟩,
  ⟨["talu", "newtailue"],
    "GM0Bb4p6a31",
    "GM0Bb4p6a31"⟩,
  ⟨["taml", "tamil"],
    "C$2115321331101131323b4432132060ekCE&5Bhd0",
    "CKh1h1Qs115321331101131323b4432132060ekEGv0BDAo0!Qd010Bn1DE3Bhd0"⟩,
  ⟨["tang", "tangut"],
    "C#*00vF*n8XvQ08",
    "L*gfPf0CPPg0vF*n8XvQ08"⟩,
  ⟨["tavt", "taiviet"],
    "BKU0C2o4",
    "BKU0C2o4"⟩,
  ⟨["telu", "telugu"],
    "DA0c121m1f281213711220232978",
    "CKh1h1Uqc121m1f281213711220232978ECq0n0"⟩,
  ⟨["tfng", "tifinagh"],
    "LJgBn71e0",
    "Y20102010KR6Bn71e0"⟩,
  ⟨["tglg", "tagalog"],
    "FY0l90",
    "FY0l90l1"⟩,
  ⟨["thaa", "thaana"],
    "B$0Bh",
    "BQc0e120C09ImBhB%S00a0"⟩,
  ⟨["thai"],
    "DQ1Bp5r",
    "Vs0q0Bb0Bd0CWfBp5r"⟩,
  ⟨["tibt", "tibetan"],
    "DY0C71B34B61B31e1641",
    "DY0C71B34B61B31e1641IBd3"⟩,
  ⟨["tirh", "tirhuta"],
    "CFE0C789",
    "CKh1h1E$c0BCZt9#C6C789"⟩,
  ⟨["tnsa", "tangsa"],
    "C!TgCe19",
    "C!TgCe19"⟩,
  ⟨["todr", "todhri"],
    "CBO0Bj",
    "Y1020209010Ca0CAT1Bj"⟩,
  ⟨["toto"],
    "DYUgu",
    "Vs0DX&ju"⟩,
  ⟨["tutg", "tulutigalari"],
    "CE$0910201B519102013191181",
    "DH69EA2010BCZr5Fr0!Ue910201B519102013191181"⟩,
  ⟨["ugar", "ugaritic"],
    "CA$0t10",
    "CA$0t10"⟩,
  ⟨["vaii", "vai"],
    "BJI0Jb",
    "BJI0Jb"⟩,
  ⟨["vith", "vithkuqi"],
    "CBLga1e16111a1e1611",
    "CBLga1e16111a1e1611"⟩,
  ⟨["wara", "warangciti"],
    "CGF0Cic0",
    "CGF0Cic0"⟩,
  ⟨["wcho", "wancho"],
    "DYW0Bp50",
    "DYW0Bp50"⟩,
  ⟨["xpeo", "oldpersian"],
    "CA%0B34d",
    "CA%0B34d"⟩,
  ⟨["xsux", "cuneiform"],
    "CIA0$pD6De14bG3",
    "CIA0$pD6De14bG3"⟩,
  ⟨["yezi", "yezidi"],
    "CDU0B91221",
    "BQc0e030C09CCAmB91221"⟩,
  ⟨["yiii", "yi"],
    "BIA0BEc3Bm",
    "MA115927Gv0#Y4BEc3BmWUq4"⟩,
  ⟨["zanb", "zanabazarsquare"],
    "CGQ0C7",
    "CGQ0C7"⟩,
  ⟨["zyyy", "common"],
    "0C0q5qBe1e14n0v0O1B6542jDk0906010Tt060e030B00Es0Q40E11BGp0Ml3J20BPf2C71Gb110BGd0d0731512" ++
      "20Y5b2Cm1a3a1ehB0BvB512251q1gB924Upmal$vI0Tj2v1D8Q0CtMik101of743Cr130Cq1EjfB0B590BgBvvCg" ++
      "Bf0CoF7GO0BvWI0B1D62F59Hk0F00Mb0e1UOi1Gg9mB21i13Ej01vq5qaa0Bd1C0616a4I224Bc38CgcBjBcH4qB" ++
      "ON43D!sHp6NjEsDjBsHlaB62Bt3g817t4BsGljcjcCm9oE7Ck1C6112021231b10161C01327161r131410361Kj" ++
      "2J32BhFDhC3CcBsW2Bb4D3ce2e1e1B4aFdBop11dBb4871e5Eq&n4g3c3Dm4Cu6b40fb4Bn896B78t2b41BuKjcd" ++
      "2c395Bn7e2a687Ei1D5YBA70uCv",
    "0C0q5qBe1b1114n0v0O12191030181015542jDu06010Tt0Gn0Q40BKs0Ml3EB7b2B01u1911161a3a1ehB0BvB5" ++
      "12251q1gB924Upmal$vI0Tj2v1D8Q0m1n2913101pN2030d0d0l0Qhnv0Bhec3F195Cvv0GO0BvWI8pD62&g0e1U" ++
      "V49mk2b1i13Ej01vq5q5Dv616a4MicBjBcBSQ3Hp6NjEsDjBsHlaB62Bt3g817t4BsGljcjcCmr6E7Ck1C611202" ++
      "1231b10161C01327161r131410361Kj2J32BhFDhC3CcBsW2Bb4D3ce2e1e1B4aFdBop11dBb48n5Eq&n4g3c3Dm" ++
      "4Cu6b40fb4Bn896B78t2b41BuKjcd2c395Bn7e2a687Ei1D5YBA70uCv"⟩]

def ofName? (name : String) : Option Script :=
  all.find? fun s => s.names.contains name

def ranges (s : Script) : Ranges := Ranges.ofCode s.ownCode

def extensionRanges (s : Script) : Ranges := Ranges.ofCode s.useCode

end Script

end FormatScan.Unicode
