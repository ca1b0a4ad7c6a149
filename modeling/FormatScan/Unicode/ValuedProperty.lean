import FormatScan.Unicode.RangeCode
/-!
Properties that give each character one of several values: its age, and its part in the division of
text.
-/

namespace FormatScan.Unicode

structure ValuedProperty where
  /-- The names of the values, in lower case and without separators. A value without a name stands
  for no set of characters. -/
  names : List (List String)
  /-- Runs of characters of one value, in the order of their code points: the number of the value,
  and the length of the run less one. -/
  runCode : String

namespace ValuedProperty

def runs (p : ValuedProperty) : List (Nat × Nat × Nat) :=
  go 0 (readNumbers p.runCode)
where
  go (start : Nat) : List Nat → List (Nat × Nat × Nat)
    | value :: length :: rest =>
      (value, start, start + length) :: go (start + length + 1) rest
    | _ => []

def rangesWhere (p : ValuedProperty) (test : Nat → Bool) : Ranges :=
  Ranges.join ((p.runs.filter fun run => test run.1).map (·.2))

def indexOf? (p : ValuedProperty) (name : String) : Option Nat :=
  p.names.findIdx? fun names => names.contains name

def rangesOf? (p : ValuedProperty) (name : String) : Option Ranges :=
  (p.indexOf? name).map fun index => p.rangesWhere (· == index)

/-- The characters of the value with that name and of the named values before it. -/
def rangesUpTo? (p : ValuedProperty) (name : String) : Option Ranges :=
  (p.indexOf? name).map fun index => p.rangesWhere fun value => 0 < value && value ≤ index

/-- How characters join into those that a reader sees. -/
def graphemeBreak : ValuedProperty where
  names :=
    [[], ["cr"], ["cn", "control"], ["ex", "extend"], ["l"], ["lf"], ["lv"], ["lvt"], ["pp",
     "prepend"], ["ri", "regionalindicator"], ["sm", "spacingmark"], ["t"], ["v"], ["zwj"]]
  runCode :=
    "295021102h0Cu2B00c200Sh3Df0Ii360I63Bc00300031003100300Bn85093a00200Bd3k0f300D43680003501" ++
      "3100330B08000300t3q0Cq3a0Bp3808300n330038003200340Ba320Bj8104380B93n803va00Bl30a03000a23" ++
      "7a330a1003609310s30a10Bn300030a13301a101a130083009310p300131a00Bn3000a2310331013202300t3" ++
      "102300a31a00Bn3000a2340031a000a1300j310l350030a10Bn300031a03301a101a130063209310t300Bq30" ++
      "a030a102a200a23008300B730a2300Bm300032a30032003306310a310s30a10Bn3000a031a030a1003200330" ++
      "6310a310ea00b31a10Bm310030a13300a200a23080073009310s30a10C5300330a132003000a6300ha10Bs30" ++
      "00a0360b370D13000a0380a360C8310q300030003003a10Bg3da0340031043a003B308300D533a0350031a13" ++
      "10ma13103320f330c3000a03105300e300D14CvcC7bCn0Ks320%h330r320s310t310Bv31a036a730a13a0830" ++
      "0Bc3220300Dk310B1300Dl32a331a203a130a5320Gq31a1300Boa030a036003000300137a53901300Bf3u0Bg" ++
      "33a00Be39a3320B5380b31a00ta033a1350Bn30a031a230a0340Bfa737a1310En32003ca0360330053001a03" ++
      "10G53Bv0Qa2030d0210n260Bg2f0Cv3B00C*t320Ec300Cv3v0R9350D8310%Oj3300390v310Cf310If3002300" ++
      "3300ma131a003300Cia10Bhaf310p3h0c300B5370o3aa0300b4s0232a00Be30a133a131a1300B3300C235a13" ++
      "1a1310b300730a00Bd300Bi3000320131043100300B8a031a104a0300Hba130a130a100a0300h607q607q607" ++
      "q607q607q607q607q607q607q607q607q607q607q607q607q607q607q607q607q607q607q607q607q607q607" ++
      "q607q607q607q607q607q607q607q607q607q607q607q607q607q607q607q607q607q607q607q607q607q607" ++
      "q607q607q607q607q607q607q607q607q607q607q607q607q607q607q607q607q607q607q607q607q607q607" ++
      "q607q607q607q607q607q607q607q607q607q607q607q607q607q607q607q607q607q607q607q607q607q607" ++
      "q607q607q607q607q607q607q607q607q607q607q607q607q607q607q607q607q607q607q607q607q607q607" ++
      "q607q607q607q607q607q607q607q607q607q607q607q607q607q607q607q607q607q607q607q607q607q607" ++
      "q607q607q607q607q607q607q607q607q607q607q607q607q607q607q607q607q607q607q607q607q607q607" ++
      "q607q607q607q607q607q607q607q607q607q607q607q607q607q607q607q607q607q607q607q607q607q607" ++
      "q607q607q607q607q607q607q607q607q607q607q607q607q607q607q607q607q607q607q607q607q607q607" ++
      "q607q607q607q607q607q607q607q607q607q607q607q607q607q607q607q607q607q607q607q607q607q607" ++
      "q607q607q607q607q607q607q607q607q607q607q607q607q607q607q607q607q607q607q607q607q607q607" ++
      "q607q607q607q607q607q607q607q607q607q607q607q607q607q607q607q607q607q607q607q607q607q607" ++
      "q607q607q607q607q607q607q607q607q607q607q607q607q607q607q607q607q607q607q607q607q607q607" ++
      "q607q607q607q607q607q607q607q607q607q607q607q607q607q607q607q607q607q607q607q607q607q607" ++
      "q607q607q607q607q607q607q607q607q607q607q607q607q607q607q607q607q607q607q607q607q607q607" ++
      "q607q607q607q607q607q607q607q607q607q607q607q607q607q607q607q607q607q607q607q607q607q607" ++
      "q607q607q607q607q607q607q607q607q607q607q607q607q607q607q607q607q607q607q607q607q607q607" ++
      "q607q607q607q607q607q607q607q607q607q607q607q607q607q607q607q607q607q607q607q607q607q607" ++
      "q0bcm03bBg0IZ1300X03f0f3f0Ge200Et310Cf2b0Q0300H1300Ek340BU532003104330B73203300F4310Rs33" ++
      "0C0340Js310Ce330C53a0Bg330Dpa030a00Bk3e0B83001310932a00Bca233a1310180033009800Bh320B334a" ++
      "0370fa10Bb300b31a00Bfa238a0300081043300a0300Cra232a133053001300Es30a2370k31a10Bm310030a0" ++
      "30a301a101a130083009a1013602340C230a135003001300032a000a13280300d310Cha237a132a0300m300C" ++
      "g30a135a030a130a031a0310Ha30a13301a331a0310q310Cha237a130a0310D930a030a1370D430a0300133a" ++
      "0340Hva238a0310Hk30a400a1013380a080a0300Eca2330131a33002a00r390B735a0803307300835a1320B7" ++
      "853ca0310Mka0360035a0300Ch3l00a036a031a0310Dp3502300031003680300C1a4003100a130a0300Kq31a" ++
      "1083180a00Bfa13402a1320m300FGk2f30053e0LG73ba2320CNv340Bq360Rbc002c30P33000aBm06330Cg300" ++
      "a310TFa3100230ESr3Bd013m0Qt340235273701360t330Ej320B%q3Bm033Bh07300d300l34003e0BKf36003g" ++
      "0136003100340D3300Ev360Lm300Bs330Pr330Ht310Wv360Dc360CEq9p0Pq340YC*v2v3Cv2Dv3Hf2DQf0F#*v"

def wordBreak : ValuedProperty where
  names :=
    [[], ["le", "aletter"], ["cr"], ["dq", "doublequote"], ["extend"], ["ex", "extendnumlet"],
     ["fo", "format"], ["hl", "hebrewletter"], ["ka", "katakana"], ["lf"], ["ml",
     "midletter"], ["mn", "midnum"], ["mb", "midnumlet"], ["nl", "newline"], ["nu",
     "numeric"], ["ri", "regionalindicator"], ["sq", "singlequote"], ["wsegspace"], ["zwj"]]
  runCode :=
    "0990d1200hh0003003g003b000c000e9a0b0041p0350001p09d00B3100160061000a00110041m001u001Ov05" ++
      "1B14Df1400110113b0100510a0120010001j001Ci001Ea00461F5001B501130010a01B8b010054Bc00400041" ++
      "00410040077q037310a00ae505b1014a0060021Ba4ke900e0b00011401D2001046e000451141004311e91201" ++
      "100e11401t4q011Co4a100de91B0481101b000100140011l431048104210440h1o42031a041n001500e10448" ++
      "1B94ne04B01Bl42104h1046194101e9001f4200170111011l001600100213014010460141014210074003110" ++
      "0124101e91109100040014200150311011l0016001100110011014000440341014202400613001006e941124" ++
      "00a4200180012001l001600110014014010470042004201100e114101e9081045004200170111011l0016001" ++
      "1001401401046014101420642031100124101e900100f401000150212001302110010001102110212021b034" ++
      "402420043011005400de90f44170012001m001f014010460042004306410012011001114101e90f104200170" ++
      "012001m0019001401401046004200430641051100114101e90011400b43180012001B8411046004200431004" ++
      "124006124101e909150042001h021n001800100116024003450040004705e901410Bs4001460b4700e90Cm40" ++
      "01480a4600e90B5100m4105e90a4000400040034117001B3034j0041144a004B308400D34j00e90b43034200" ++
      "42014602430c4b0040e943011B500100410011Ba001Kc0013011600100013011B80013011B00013011600100" ++
      "013011e001Bo0013011C201420v1f0f1Cl0115021Tb011gh01p041Ca021a061h43081i420a1h410b1c001200" ++
      "410Bv4v084001e90B0426040e9051Co0614411B14010041C5091u004b034b09e90Dvea0B41m440Bo49004s01" ++
      "40e905e90l4u0Bg441Be4g1702e90g480b421t4c11e91Bb4d0b1B34j07e90212e91B3011a041Ba01120f4200" ++
      "4k13401540114210041Fv4Bv1Il0115011B501150117001000100010001u011Bk00160010021200160213011" ++
      "5031c0412001602h600h20040i06107c109c001a0d164500e5102b00e5009h064006900100c100f1c0Bi4B00" ++
      "g1003100119001002140510001000100013001a0113041403100g1B80Zc1Bj0BYl1H4051342110b1B5001004" ++
      "10011Bn06100e401m08160016001600160016001600160016004v0Be100Ofh003100B345008404110Cr41810" ++
      "28Cq0083041Ba001Ct0g1v0Bf8f0Gf8Be008Cn0#F71BEc0C21Bd011Ic021fe9110j1Be430049001u411Cf410" ++
      "l1G50111001000170k1f40124013401m4403400i1Bj0b411Bh4h09e9054h150210001140e91r47011m4c0b1s" ++
      "02431Be4d0d10e90a4009e9051B84d081240174101e90B0420Bh4000420141044100400t1a44011241091501" ++
      "15011508160016001Bp051Di47004101e9051K%30b1m031Bg0IY3160b1404704079007c00740070007100710" ++
      "0791D10B01La0h1Bv011Bl0B71b034f02a00b4f02510n52b000c000b0a00p14001E6016006c003b000c000e9" ++
      "a0b0041p0350001p0a8Bn411u02150115011501120r62031b001p001i0011001e011d0B11Dq0C41Bk0E7400E" ++
      "11s021Bg0e400u1v0c1t041B544041t011B3031700140B91Et01e9051B3031B3031B7071Bj0b1a001e001600" ++
      "11001a001e00160011021Bj0b1Jm081l09170n15001B900180C4150110001Bb00110210011m091m081u0C01i" ++
      "0011091l091p0C51Bn05110Bv104200410443130012001s014203400v1s021s0B217001r410o1Bl091l091i0" ++
      "c1h0Dd1C80Bm1Bi0c1Bi0c1B34307e905e91r0244001m0Hp1B9004102110f120Bm431s0910071l4a0u1h430B" ++
      "91k0q1m08421Bk4e0ue94011411008431Bc4a01e0034009e0011o06e905421B34d00e903104110071B240011" ++
      "008421Bf4d1303430041e91000100B21h001o4b054011400Bt1600100013001e0019061Be4b04e9054300170" ++
      "111011l001600110014004110460141014201100540041441014602440a1900100110001B500104800400140" ++
      "004300441040100c410s1Bk4h1304e90340120t1Bf4j11001007e90F51Be4601480m13410B11Bf4g02100ae9" ++
      "0B51Ba4c1006e905ej0Bo4e03e90G51Bb4e0D41Bve90k17011001170011001n4500410143104010410be90C5" ++
      "17011B6460146100010400q10491B7461043074007104a1Bd4f02100h1C80G61B00ee90518001B4470047100" ++
      "ee90n1t014l004d0C8160011001B545024000410046104007e905150011001v44004100441006e90Jl1i4308" ++
      "4110401c001B14602440ce9400Ck100Ce1$p0D51De0g1G30CSb1D00e1BBf6f40154e091D$q041S60GVo1t4he" ++
      "90BW51Ro061u00e9051Ce00e9051t01440a1Bf4608130be9081k041i0Nf1Bc02e90G51Bv0Dv1Ca0340104Bm0" ++
      "6431c0Bv110010400a410P*t830086008100800Iu820Bh800d830CUn1Da041c02180619024100630ECbe90Q5" ++
      "4Bd014m0Qt440245674701460t430Ej420Nq1Ck001C60011011001110113001b00100016001C000130117001" ++
      "6001r0013001400100216001Kj011o001o001u001o001u001o001u001o001u001o001701eBh0Pv4Bm034Bh07" ++
      "400d400l44004e0BCf1u05150Gk46004g014600410044041Bt0B0400Df1Bc02461601e903100K01t400g1Bb4" ++
      "3e90Ol1r43e90Gl1t4110e90P41600130011001e001G40a460B81C3461003e90BF513001q001100100110001" ++
      "9001300100010051003100010001000120011001001100010001000100010001100100113001600130013001" ++
      "00019001g04120014001g0Tj1p051p051p0Crfp0Pq440B*fe90YBA6600t4Cv0Dv4Hf0F*Qf"

def sentenceBreak : ValuedProperty where
  names :=
    [[], ["at", "aterm"], ["cr"], ["cl", "close"], ["ex", "extend"], ["fo", "format"], ["lf"],
     ["lo", "lower"], ["nu", "numeric"], ["le", "oletter"], ["sc", "scontinue"], ["st",
     "sterm"], ["se", "sep"], ["sp"], ["up", "upper"]]
  runCode :=
    "08d060d1200hd0b030033201a1100089a102b000ep300030027p30003006c00pd00870300050067003703003" ++
      "em00e67n0077e070e070e070e070e070e070e070e070e070e070e070e070e070e070e070e070e070e070e070" ++
      "e070e070e070e070e070e070e070e070e071e070e070e070e070e070e070e070e071e070e070e070e070e070" ++
      "e070e070e070e070e070e070e070e070e070e070e070e070e070e070e070e070e070e070e170e070e072e170" ++
      "e070e170e271e370e170e272e170e170e070e070e170e071e070e170e270e070e17190e07293e170e170e170" ++
      "e070e070e070e070e070e070e070e071e070e070e070e070e070e070e070e070e071e170e070e270e070e070" ++
      "e070e070e070e070e070e070e070e070e070e070e070e070e070e070e070e070e070e070e070e070e070e070" ++
      "e070e070e070e070e076e170e171e070e370e070e070e070e07C4907B39671039b0d74069000900g4Dfe070e" ++
      "0709000e0700173a0e005e000e200e000e170eg00e87B2e071e272e070e070e070e070e070e070e070e070e0" ++
      "70e070e070e074e07000e070e171eBi7Bfe070e070e070e070e070e070e070e070e070e070e070e070e070e0" ++
      "70e070e070e0700046e070e070e070e070e070e070e070e070e070e070e070e070e070e070e070e070e070e0" ++
      "70e070e070e070e070e070e070e070e070e070e170e070e070e070e070e070e071e070e070e070e070e070e0" ++
      "70e070e070e070e070e070e070e070e070e070e070e070e070e070e070e070e070e070e070e070e070e070e0" ++
      "70e070e070e070e070e070e070e070e070e070e070e070e070e070e070e070e070e070e070e070e07000eB50" ++
      "19002a0017B8b0064Bc0040004100410040079q03940b8505a1014a0050b29Ba4k8900810091409D2b090468" ++
      "00045914100439189920190b20b5090409t4q019Co4a900d899B0489101a0b0900140019l439048904290440" ++
      "8b000b002b1009o42039a049n0095008104489B94n804B09Bl42904h90469941b189009f4200970191019l00" ++
      "96009002930140904601410142900740039100924101899109900040014200950391019l0096009100910091" ++
      "014000440341014202400693009006894192400a4200980092009l009600910094014090470042004201900e" ++
      "91410189089045004200970191019l009600910094014090460141014206420391009241018900900f409000" ++
      "950292009302910090009102910292029b034402420043019005400d890f44970092009m009f014090460042" ++
      "004306410092019001914101890f904200970092009m00990094014090460042004306410591009141018900" ++
      "91400b43980092009B84190460042004390049240069241018909950042009h029n009800900196024003450" ++
      "0400047058901410c9Bf40914604964700890B69100900094009n00900099409148900194009000460089019" ++
      "30v900m4105890a4000400040334197009B3034j0041944a004B308400Bo9Ba4j9089b103954393429042914" ++
      "692439c4b9040894301eB500e004e0019Ba00709Kb0093019600900093019B80093019B00093019600900093" ++
      "019e009Bo0093019C2014201b003b10m9f0feCl0175029Tb00b09gd09p31029Ca029a069h43089i42b1089h4" ++
      "10b9c009200410b9Bj4vb1009003904001890na0b003a0b00042504089059Co0694419B14090049C5099u004" ++
      "b034b07b1899t01940a9Bb039p058a0B49m44039Bk49004s01408905890c90b3034u0Bg449Be4g9700b189b1" ++
      "01b10a4808b2429t4c91899Bb4d0b9B34j02b102890292899B3b178e070049Ba01920f42004k934095409142" ++
      "90047Fv4Bve070e070e070e070e070e070e070e070e070e070e070e070e070e070e070e070e070e070e070e0" ++
      "70e070e070e070e070e070e070e070e070e070e070e070e070e070e070e070e070e070e070e070e070e070e0" ++
      "70e070e070e070e070e070e070e070e070e070e070e070e070e070e070e070e070e070e070e070e070e070e0" ++
      "70e070e070e070e070e070e070e070e070e070e070e078e070e070e070e070e070e070e070e070e070e070e0" ++
      "70e070e070e070e070e070e070e070e070e070e070e070e070e070e070e070e070e070e070e070e070e070e0" ++
      "70e070e070e070e070e070e070e070e070e070e070e070e070e070e070e070e078e77501e50177e777e77501" ++
      "e5017700e000e000e000e077e77d0177e777e777e7740071e4007002720071e402730171e30377e404720071" ++
      "e402da50415102a10237031002c154d0083100b10631b20kd054005900700a31700c31007c0Bi4B00ge003e0" ++
      "0170e271e27000e002e405e000e000e000e30070e37093700171e104e07303700gef7f92e070930Lu330s310" ++
      "Maep7p0Tg35063d0Ce310u390Mi3l0Bu330v310Q1eBf7Bfe070e271e070e070e070e370e071e077e270e070e" ++
      "070e070e070e070e070e070e070e070e070e070e070e070e070e070e070e070e070e070e070e070e070e070e" ++
      "070e070e070e070e070e070e070e070e070e070e070e070e070e070e070e070e070e070e070e070e070e070e" ++
      "070e070e070e07105e070e07042e07004b2037B500700470019Bn06900e409m0896009600960096009600960" ++
      "0960096004v3d0d31013903b0900bb004300fb1370N2d0a0b00192390137003200984500940194039Cl01410" ++
      "192009Cp0093049Ba009Ct0g9v0Bf9f0Pv9GNv0Bv9VUc0C29Bd00b09Ic00b19f89910je070e070e070e070e0" ++
      "70e070e070e070e070e070e070e070e070e070e070e070e070e070e070e070e070e070e070904300490090e0" ++
      "70e070e070e070e070e070e070e070e070e070e070e070e070e072419Cf4100b002b00u9801e070e070e070e" ++
      "070e070e070e072e070e070e070e070e070e070e070e070e070e070e070e070e070e070e070e070e070e070e" ++
      "070e070e070e070e070e070e070e070e070e070e070e070e079e070e070e170e070e070e070e0709001e070e" ++
      "07090e070e072e070e070e070e070e070e070e070e070e070e070e470e470e070e070e070e070e070e070e07" ++
      "0e370e070e17001e07000700070e070e070e070e00k72e07090729640924093409m4403400i9Bj01b107419B" ++
      "h4h07b189054h950290009140899r4700b09m4c0b9s02439Be4d06b1049089059440998994009B84d0892409" ++
      "741018902b29m0290429Bh409042914194419040900n92019a44b1924109950195019508960096007Ba007d0" ++
      "57Cf9B247b0410189059K%30b9m039Bg0II39Ld019D90B5760b7404904099009c0094009000910091009Db0B" ++
      "09La310f9Bv019Bl0B79b034fa1b0a1b131064f00a1013f013106a11000a1b1a03503a00b94009E6015000b0" ++
      "053101a1100089a102b000ep300030027p3000300031b031a0009Bn419u02950195019501920r52039b009p0" ++
      "09i0091009e019d0B19Dq0C49Bk0E7400E19s029Bg0e400u9v0c9t049B544049t019B3039700940B9eB77B79" ++
      "Cd018905eB3037B3039B7079Bj0bea00ee00e600e1007a007e00760071029Bj0b9Jm089l09970n709172007B" ++
      "900780C4950190009Bb00910290019m099m089u0C09i0091099l099p0C59Bn05910Bv9042004104439300920" ++
      "09s014203400lb1079s029s0B297009r410o9Bl099l099i0c9h0Dd9C80BmeBi0c7Bi0c9B3430789058995el0" ++
      "24400907l0Hp9B9004102910f920Bm439s0990079l4a03b40l9h43b30B59k0q9m08429Bk4eb10s8940914190" ++
      "08439Bc4a0180b3400980019o068905429B34d008900b2904190079B240019008429Bf4d93b10143b0418990" ++
      "009000b10v9h009o4bb100b1004091400Bt9600900093009e0099b0059Be4b0489054300970191019l009600" ++
      "910094004190460141014201900540049441014602440a9900900190009B5009048004001400043004490409" ++
      "0b10a410s9Bk4h93b102890340920t9Bf4j91009007890F59Be46014800b104be93410B19Bf4gb100900a890" ++
      "B59Ba4c900689058j0r9q014e038901b200960Fo9Bb4e0D4ev7v890k97019001970091009n45004101439040" ++
      "9041b000b008890C597019B6460146900090400q90499B746904302b1024007904a9Bd4f00b1900h9C80G69B" ++
      "00e890598009B447004790b10c890n9t014l004d0C8960091009B5450240004100469040078905950091009v" ++
      "44004100449006890Jl9i43b1064190409c009B1460244b10a89400Ck900Ce9$p0D59De0g9G30CSb9D00e9BB" ++
      "f5f40954e099D$q049S60GVo9t4h890BW59Ro069u008903b19Ce0089059t0144b0099Bf46b10693b00a89089" ++
      "k049i0Nf9Bc00b1890G5ev7v0nb00D69Ca0340904Bm06439c0Bv910090400a410d9F*n079BGl0B8990IX6930" ++
      "0960091009J20e900s9201900d93079Mb0CI39Da049c029806990241b0530ECb890Q54Bd014m0Qt440245574" ++
      "701460t430Ej420Nqep7pep76007hep7pe000e101e001e101e300e77300700076007aep7pe100e301e700e60" ++
      "07pe100e300e400e002e6007pep7pep7pep7pep7pep7pep7r01eo007o0075eo007o0075eo007o0075eo007o0" ++
      "075eo007o0075e070018Bh0Pv4Bm034Bh07400d4002b00h44004e0BCf79907j05750Gk46004g014600410044" ++
      "047Bt0B0400Df9Bc024696018903900K09t400g9Bb43890Ol9r43890Gl9t4190890P49600930091009e009G4" ++
      "0a460B8eB17B1469003890BF593009q009100900190009900930090009005900390009000900092009100900" ++
      "190009000900090009000910090019300960093009300900099009g04920094009g0Tjep05ep05ep0BHb320B" ++
      "Lm890BA59BJWv0v9EBp059Gt019FU10d9HJg0e9Td0CN19Qt0BP19E!a049ECv0VXCg500t4Cv0Dv4Hf0F*Qf"

/-- The version of the standard that first had the character. -/
def age : ValuedProperty where
  names :=
    [[], ["v11", "1.1"], ["v20", "2.0"], ["v21", "2.1"], ["v30", "3.0"], ["v31", "3.1"],
     ["v32", "3.2"], ["v40", "4.0"], ["v41", "4.1"], ["v50", "5.0"], ["v51", "5.1"], ["v52",
     "5.2"], ["v60", "6.0"], ["v61", "6.1"], ["v62", "6.2"], ["v63", "6.3"], ["v70", "7.0"],
     ["v80", "8.0"], ["v90", "9.0"], ["v100", "10.0"], ["v110", "11.0"], ["v120", "12.0"],
     ["v121", "12.1"], ["v130", "13.0"], ["v140", "14.0"], ["v150", "15.0"], ["v151", "15.1"],
     ["v160", "16.0"]]
  runCode :=
    "1Pl431t4760704h728a9d1Co44711Be4019447g1C5486077847211406ca311a101109210g003160010001j00" ++
      "1Bba016406110401040104010401h51607483401b401C1401b401B8a04161431Bk6111611161901r41178111" ++
      "956f93afb1c1g7001B50116k01B6k0104001g1d0002g802c1990182082071q03k0140a73d0g0a4801078a410" ++
      "f0o08010c01pa41i427285c01d611C74114401e401t711944704d004t724q01728tah4Bg600d9Bq01k2bBd01" ++
      "be00cr01c000ja04ou00o104r0o7d0g0dag5h1o0i7n9oak0ieh0dqg0b012701Bkc11hb0c014b0c11oa1c4g0b" ++
      "1918091g01200170111011l001600100213011070160111011280071003110014011kb0j1k00170107000150" ++
      "311011l0016001100110011011000140311011202a006130010061ea0k00912001670100012001l001600110" ++
      "01401190012001201100e10720119d07006h0j5001200170111011l001600110070130117a00111011206n01" ++
      "103110012a1011a70c50911001502120013021100100011021102120217801203140212001301a005100d801" ++
      "b7704g012k0170012001m0019g01401o0a01600120013061100a1h001o00111a1011906l0a7i0g011k017001" ++
      "2001m0019001401711600120013061105o01000119101190091p00bj0g011n0170012001mc01fc0j1a015a00" ++
      "0120013c0i003i210i6h011a10119a5i2a600n041004h024n004800400146024003450040004705g901420b1" ++
      "Bp031s0B411001000l011l01000l010l513l016l01200100010l111l01cl012011400100015p000190111d10" ++
      "v2C7002B040a1032qc3254020002k4226402042004e00a04081a2b3c10B44B1a044a041a046a243a54paBvb3" ++
      "a11B500d004d0011B661811080d21Cpb41C3b41Chb546804Bu80400043014600400043014B680400043014u8" ++
      "040004301460040004301468046004m804u804000430146804B6804i01c1814r028p054Ckh001h501b04Tlb8" ++
      "4s024Cgg7066co066o008o06m086j0b6c006200610b4Cs7001490579054eo049054Cnk0064B9a004bC5097sg" ++
      "1007b037b0370027B901740a8B9b1038p0589b002817v8r0181bBu00bs01ba05b905bd01gen1od0Bg9Cbo000" ++
      "r19Bco1r0aBad2abd5cBj07c3aBn02ae02aBii8r104kBa01k2d707bB2d3j0g1l0047Db8Cn96argej3o0i0c0b" ++
      "0911Eq20a31Cpa51l0115011B501150117001000100010001u011Bk001e001d0115001i01120018001Be401m" ++
      "6045647181608664a000f31660011q0084c7021a2030426183b2c0e0g2h0j0o00e1h41668093a00e1Bo41708" ++
      "06e8091a0b21Bf4090a3b0h1031Cq486b1Hh6d10401Do40604t6Bj718a9bb0cag6i3j01B441r20l1a0k1Ea6j" ++
      "701El691Cf47671j716180401Cl416b8169778aa0b1718f90a9b2a3b9c0bic0b0c3bng013c013c11rc01B2c0" ++
      "10c013c210b016c1166d1uc21nc01dc08693d0a0d0c16ra36f4Hv6Pv7d8596a493aB8g2a4b4gp01gv00n0gB1" ++
      "k2gbl0g7j0koh3kel08Beo08Beo09ca2b0a293a5b18Dab6d1048Bc00d004d0018Bld10680c00dc08m0886008" ++
      "600860086008600860086008600av8na381aib0d9g6i1j4k4l0n2oa0B14p004Co0b4Gl0p4bq31Bn426240100" ++
      "01Cj610115611Ct60041B7a0j0k0001Ct001f4nc2n48fajr108q06f1s71001B3bb706e1r71801Bh6e1b731Be" ++
      "m01Dm731D2711u704GNln97Bv1UN58la7b7d0h8jkk4nco24BEc024h614f604b6042604008bBfaJb0javc1ahd" ++
      "7arg5h0d0bCn078m93a491aDac1h0c1d1gbc9d0g2i0k0g1h5k1l5o1l4n3r201o100o000o4r20ko2n1g0d1c0a" ++
      "48Bbn002b9059Bn07aC4i007ab05brh1k1aCj0aa0bs02bCd00ba03b1gu00aBm08ad01a901a3brg3bC20nb4dm" ++
      "09c501c501c508c600c600gBfh3g1l1n303hCfbBd01b9052K%30bbm03bBg0CA31GRdd16Bqb2018D90B5160b1" ++
      "404401o0014001000110011001Dbcfo00f1Lcof1Bv011Bl06o05v1b6070o16f890513a2g6h11k617119001i0" ++
      "01303126010001E60110001Ct611Ct021501150115011202160016094230127b007p007i0071007e017d0B17" ++
      "Dq0472037Bc02788Cag1i100abn002g00BeaBd0E1as02aBg0egr035ug05308j25q04gBa047t00708B3038d0B" ++
      "95B5715B57Cf017905iB303iB303gB707gBj0ag0oa00oe00o600o100oa00oe00o600o102rBj0bgJm08gl09g7" ++
      "0no500oB900o80C4750170007Bb007102700170bl00b8gBu07g80Bfhi00h104h49pb10290ap04a00BvdBn03h" ++
      "1d1hf01hBd83008104870082008qk101820388k0068806bvgv0vgB603gb08bBl02bs01bq04b7gh06g30bg60C" ++
      "fbC80BmhBi0chBi06h5kB707k905rB502rs07r10Gfbu00nB900n201n10fr20Bmr0p2kB707kB90lop0B5nr0jl" ++
      "m08cCd03cto508g0bC1o009k001do06d905dBk00ddk2n007gB608dC8h3g0n1d9g0h400gj0agh00gBai0p20Bt" ++
      "h600h000h300he00ha05gBq04g905h0g200g701g101gl00g600g100g400k0g801g101g201h005g004g601g60" ++
      "2g40ar900r001r000rB500r900r001r000r300r900r107r10siCpn0i000i0k0l0n10tgC707g90F5gBl01ghhj" ++
      "0B1gC40ag905ic0idBnl0o005d905rj0rhpk001he03hfo60FokBr0D3gCi0bg0n601n001n700n100nt00n101n" ++
      "b08n90C5l701lBd01la0qjC707jBjl1jmk0j40cofgBo06p90FlrB10dr905i800iBc00id09is02iv01il00id0" ++
      "C8j600j100jBb02j000j100j807j905k500k100kB400k100k506k90Jlko06pg00pB802prr00Ckn00elBh0cl0" ++
      "9#egB9h00D59D2gb0093g00ahG30CSboD20cbBBep0l8ps09rD$q04hS60GVorBp0BW5cRo06gu00g903g1oCe00" ++
      "o905gt01g509gC509g900g600gk04gi0NfrBp0G5kCq0D4dC4l503l0dBel806dg0Bvi0j0l1n00an10diF*ck4l" ++
      "507iXinP20B8r0n80IX6o300o600o100c1jIso30ep00sl201p00dl307jMb0CI3gDa04gc02g806g901g70D!rr" ++
      "Hp05rNj0CboBd01om08oDj0Br5Hl095B601a05Fjhao10k8C50Dppj0bkj0b7Cm089hk60E65Ck005C600510150" ++
      "01510153005b005000537051005C0005301570056005r0053005400500256005Kh81015J191015BhhUb0eh40" ++
      "0he0BCfou05p50Gki600ig01i600i100i404pBt0B0p00DflBc02ld01l903l10Jvou0glBp04l00OfpB90GlrBa" ++
      "03r00Ovo600o300o100oe00gG401gf0B8iCal003i903i10YgkC30CblBs0G1d300dq00d100d001d000d900d30" ++
      "0d000d005d003d000d000d000d200d100d001d000d000d000d000d000d100d001d300d600d300d300d000d90" ++
      "0dg04d200d400dg0Bjd10IdaBb03aD30bce01cdg000ce00cegl09bag1n2buk0c0b0cab0c0b0c1b0c2b0c2b4c" ++
      "7b0c6b0c9d1l0n2c8b0c0b1c1b0c9b3c1b0c9ihn00Bncpb0c10cbB1c8i003b806c10dj50EpcB0gbh2c5g0cC5" ++
      "g0h1cjgbcB4g0c4g3h4gbcgg6h7cBug0c0g0cFlg0c3g1h0cBtg1d3g6h4cnghi0gB8i0gClc4d0cfd0c2d0c0d0" ++
      "c0d0c0d0c2d0c5d1c3d0c0d1c3d0cbg1h1cagBfcC5g9h0i1j1l0n103p0o2gc02g3i2j1k0l0n102cDjp203p4g" ++
      "Ckk3p005lb03o00egb03gBn07g905gB707gt01n1r903r10Btjbn0l2h8i5j0i7j7i0j1ibl0ibj0k2iejck4l0n" ++
      "0k3n1o0k0l0k3h4icj5kan1l5n2l1k9l5h0k1l7n0o0l2jmkolCj0bkd01l3n0p2l2o102l2n3p1r004r0l5nio3" ++
      "p2n6o3p2r0p0n2o2r006p1n6o2p1r001r0o7p0r005o6p106nEi00nBmrB4n90BA3215BJWmn6o10vbEBko3p005" ++
      "cGt01hFU10djHJg0eqTd0CN15Qt0BOv21nE!a04pECv0BXCd210B**t210B**t210B**t210B**t210B**t210B*" ++
      "*t210B**t210B**t210B**t210B**t2100500t5Cv0Dv7Hf0B*Qd2EAA1"

end ValuedProperty

end FormatScan.Unicode
