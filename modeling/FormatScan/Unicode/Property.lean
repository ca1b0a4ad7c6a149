import FormatScan.Unicode.RangeCode
/-!
Properties that a character has or has not.
-/

namespace FormatScan.Unicode

inductive Property where
  | asciiHexDigit
  | alphabetic
  | bidiControl
  | bidiMirrored
  | caseIgnorable
  | cased
  | changesWhenCasefolded
  | changesWhenCasemapped
  | changesWhenLowercased
  | changesWhenTitlecased
  | changesWhenUppercased
  | dash
  | defaultIgnorableCodePoint
  | deprecated
  | diacritic
  | emoji
  | emojiComponent
  | emojiModifier
  | emojiModifierBase
  | emojiPresentation
  | extendedPictographic
  | extender
  | graphemeBase
  | graphemeExtend
  | graphemeLink
  | hexDigit
  | hyphen
  | idsBinaryOperator
  | idsTrinaryOperator
  | idsUnaryOperator
  | idCompatMathContinue
  | idCompatMathStart
  | idContinue
  | idStart
  | ideographic
  | joinControl
  | logicalOrderException
  | lowercase
  | math
  | modifierCombiningMark
  | noncharacterCodePoint
  | otherAlphabetic
  | otherDefaultIgnorableCodePoint
  | otherGraphemeExtend
  | otherIDContinue
  | otherIDStart
  | otherLowercase
  | otherMath
  | otherUppercase
  | patternSyntax
  | patternWhiteSpace
  | prependedConcatenationMark
  | quotationMark
  | radical
  | regionalIndicator
  | sentenceTerminal
  | softDotted
  | terminalPunctuation
  | unifiedIdeograph
  | uppercase
  | variationSelector
  | whiteSpace
  | xidContinue
  | xidStart
deriving DecidableEq

namespace Property

def ofName? : String → Option Property
  | "asciihexdigit" | "ahex" => some .asciiHexDigit
  | "alphabetic" | "alpha" => some .alphabetic
  | "bidicontrol" | "bidic" => some .bidiControl
  | "bidimirrored" | "bidim" => some .bidiMirrored
  | "caseignorable" | "ci" => some .caseIgnorable
  | "cased" => some .cased
  | "changeswhencasefolded" | "cwcf" => some .changesWhenCasefolded
  | "changeswhencasemapped" | "cwcm" => some .changesWhenCasemapped
  | "changeswhenlowercased" | "cwl" => some .changesWhenLowercased
  | "changeswhentitlecased" | "cwt" => some .changesWhenTitlecased
  | "changeswhenuppercased" | "cwu" => some .changesWhenUppercased
  | "dash" => some .dash
  | "defaultignorablecodepoint" | "di" => some .defaultIgnorableCodePoint
  | "deprecated" | "dep" => some .deprecated
  | "diacritic" | "dia" => some .diacritic
  | "emoji" => some .emoji
  | "emojicomponent" | "ecomp" => some .emojiComponent
  | "emojimodifier" | "emod" => some .emojiModifier
  | "emojimodifierbase" | "ebase" => some .emojiModifierBase
  | "emojipresentation" | "epres" => some .emojiPresentation
  | "extendedpictographic" | "extpict" => some .extendedPictographic
  | "extender" | "ext" => some .extender
  | "graphemebase" | "grbase" => some .graphemeBase
  | "graphemeextend" | "grext" => some .graphemeExtend
  | "graphemelink" | "grlink" => some .graphemeLink
  | "hexdigit" | "hex" => some .hexDigit
  | "hyphen" => some .hyphen
  | "idsbinaryoperator" | "idsb" => some .idsBinaryOperator
  | "idstrinaryoperator" | "idst" => some .idsTrinaryOperator
  | "idsunaryoperator" | "idsu" => some .idsUnaryOperator
  | "idcompatmathcontinue" => some .idCompatMathContinue
  | "idcompatmathstart" => some .idCompatMathStart
  | "idcontinue" | "idc" => some .idContinue
  | "idstart" | "ids" => some .idStart
  | "ideographic" | "ideo" => some .ideographic
  | "joincontrol" | "joinc" => some .joinControl
  | "logicalorderexception" | "loe" => some .logicalOrderException
  | "lowercase" | "lower" => some .lowercase
  | "math" => some .math
  | "modifiercombiningmark" | "mcm" => some .modifierCombiningMark
  | "noncharactercodepoint" | "nchar" => some .noncharacterCodePoint
  | "otheralphabetic" | "oalpha" => some .otherAlphabetic
  | "otherdefaultignorablecodepoint" | "odi" => some .otherDefaultIgnorableCodePoint
  | "othergraphemeextend" | "ogrext" => some .otherGraphemeExtend
  | "otheridcontinue" | "oidc" => some .otherIDContinue
  | "otheridstart" | "oids" => some .otherIDStart
  | "otherlowercase" | "olower" => some .otherLowercase
  | "othermath" | "omath" => some .otherMath
  | "otheruppercase" | "oupper" => some .otherUppercase
  | "patternsyntax" | "patsyn" => some .patternSyntax
  | "patternwhitespace" | "patws" => some .patternWhiteSpace
  | "prependedconcatenationmark" | "pcm" => some .prependedConcatenationMark
  | "quotationmark" | "qmark" => some .quotationMark
  | "radical" => some .radical
  | "regionalindicator" | "ri" => some .regionalIndicator
  | "sentenceterminal" | "sterm" => some .sentenceTerminal
  | "softdotted" | "sd" => some .softDotted
  | "terminalpunctuation" | "term" => some .terminalPunctuation
  | "unifiedideograph" | "uideo" => some .unifiedIdeograph
  | "uppercase" | "upper" => some .uppercase
  | "variationselector" | "vs" => some .variationSelector
  | "whitespace" | "wspace" | "space" => some .whiteSpace
  | "xidcontinue" | "xidc" => some .xidContinue
  | "xidstart" | "xids" => some .xidStart
  | _ => none

def rangeCode : Property → String
  | asciiHexDigit =>
    "Bg975q5"
  | alphabetic =>
    "C1p6pBf0a0405m1u1O94be47010Cm0th1123106012101j1Ci1Ea8F51B5206B8B7d101111108q43ta5Bn16eD5" ++
      "174742a220gBfdD4oB091405n2ijo7a5n15808B9ab366Cb1f124edi17212l16103337212110804114c1a0421" ++
      "5412l16111111444121407310h5b218121l16111438121130f3l34217212l161114372121914114d0g115321" ++
      "331101131323b4432123060B8c121m1f37121281122023s317121m1914371212816113d2cc121B8271212105" ++
      "374m5121h3n181026851017i1dBp5660Bj110141n101i12241060e3B00Bv71B34i4f1B3C3Bm1024gBva32B51" ++
      "0502Ba1Kc132610132B8132B0132610132e1Bo132C2B5fgCl253Tb2g1p5Ca3a7jbkcjcc1211cBj2ie040C3Co" ++
      "7Ba5C5au1b48nt24bBb4pBmr4Bu2jBi0n1b2BhBj1e17BjB923aBb1aeBmm2aB32a5Ba22B931511305FvjB1bIl" ++
      "252B525271010101u2Bk1610321633254c5216Dk0d0gcD5040291034601010131a235440hB8ZdBjBYmH46331" ++
      "cB510502Bn70gm96161616161616161vBf0Ol2p874244Cl621Cp135Ba1CthvBgfQ0GNvC0VUcC3Bd2Ic3fa1kB" ++
      "e573DgB782D62C2211017lj1B0oBjcC310Bc53012aB05B2ds3Bi1bf0gfa41Bm9dim3C41010o22f23b5252596" ++
      "161Ba1d6DqlK%3cm4BgII4Ld2D9B66c45b1c141011111DbB1LaiBv2BlB8bDk41E6B4p6pbCo35252522B3b1p1" ++
      "i111e2dB2DqC5BkIbs3BgBfvdt5Ba5t2B34714BaEtiB34B34B78Bjca1e16111a1e16113BjcJm9la7o51B918C" ++
      "55201Bb11302mam9uC1i11alapC6Bn61C031157121sBas3sB371rrBlalaidhDeC8BnBidBidB7B2r305mHqB91" ++
      "131g2Bn03sa08lBahBekrm9C5Bb4aBo90donBih38B2309Bv1391a010B3h1B12063Bu610131e197Bon317212l" ++
      "161114372121306056s910201B519102013113010BcC11213k2uC12110FoBl26p5B2Bu1030BrBl20C7q2dl6F" ++
      "pBoD7Bvv72027111t112123Ct72Bd251011rBi29hC750iC8G7B0v81Bc1610Bht2l1dC96111Bb3011121021o5" ++
      "111B4111310K7m9g1B832Df0Cf$pD6DehG3CScD0fBBfh5pD$q5S6GVpBeBWhRo7uhCehtiBfg3vk5iNgBcGjBvE" ++
      "0Ca4Bo7gC0110c1eF*n8BGlB99IX7316111J2f0t220e38MbCI4Da5c387940F#1Ck1C6112021231b10161C013" ++
      "27161r131410361Kj2o1o1u1o1u1o1u1o1u1o17BZku65Gl61g2611145BtB10DgBca6g0K1tiBbP4rH4t20Pf61" ++
      "3111e1G4BrC33030BFk31q1110201913101060401010121110201010101011102316131310191g52141gTkp6" ++
      "p6pDTmBJWvB0EBp6Gt2FU1eHJgfTdCN2QtBP2E!a5ECv"
  | bidiControl =>
    "BQs0GPh1q4Bn3"
  | bidiMirrored =>
    "B81i010s010t010Bd0f0DTu3B!t1CMs1a1Bm1e1Fh0G033530313313101048501h539110171v2350912i51942" ++
      "14n2f83k171BBtdCa023111253523dMjl251d807530441124401221a521ci13201020135162o1b14311214Ba" ++
      "271B750103452403410I00Q333111e129Bb7Nb927BTRt551F21i010s010t0101111BV#n0Bp0Bp0Bp0Bp0"
  | caseIgnorable =>
    "B7060b0B3010C7040104021PnFv41409110Hr6Gf050BhBc10111110Bc0b5aa10B30akg0D571913B1010uqCra" ++
      "Bqa4020onBb2Bc07158B9BpBn010474036a1d0f0Bq04380k1q021Bp041412230u130b1Bp0441140k1m510Bq0" ++
      "20138071b1u0Bt0c0Bi030Bn012521371b1t0Bq0206051k1s1Bp14380k1t0C807210Cq026b8D20289016C91r" ++
      "01010Bnd14115a1B390D63151121p142g3d02160f0Cu0T02%i2t1u1u1C0116802a3050Bd4Bj0C11B20Dm2419" ++
      "062Gr120Bq0161010276920B708uBh3Bg0141050B88c1B032112Bo0113012Bq721C05Ci21c16406031BiBud0" ++
      "B2D4Nt012b2d2d2d1c481a02024Bh41910d0gcBjB0C$b1Dh2Dt0f0D0vBf0Ol0B433450Ct5Ct2#Ym0BH25Ie0D" ++
      "231910s3Cg1eB1Ce0n2D7231803040p150En1qhd0B67paBe2Bg02321h0l1C252121c080B30b0Bj012215110r" ++
      "0e15110D4492Dp02040TZg0EjgRtf30cfB2020F907060b0B3010Bf0Bd1C30l2Q10H20El4BA551B918S621153" ++
      "B8240F51Rt3B60q410Jr1Cf3C6aBh3Dr0BmeB9021a2Bh3212040a0Bi2B4417Bu0c1Bk8a320Cv220116020Et0" ++
      "37l1Bp130B5634C65d01010e1Cl72210n0Ck5104111He36111r1Cl72011Da0102510D50102314I3811I01104" ++
      "0Eg32140B09B8523809522Bec11Mm61510Cil261111Dq530111610C813010Kr1b1Bk45010n0FGlg6eLG8b32C" ++
      "O04Br693Ps2B81P20BvgC0111QAb31611DEu113ESsBd2mR029f26u3Ek2B%rBm4Bh80e0m41eBKg61g2611145B" ++
      "tB10F0dLg0Bt3Pr4Hu1X06Dd7CVf4YDA10uCvE0Hf"
  | cased =>
    "C1p6pBf0a0405m1u1G2134Gf1B371u4D00Ba32123106012101j1Ci1Ea8F51B59B8CYnB510502Ba13V0Cl25CE" ++
      "2a5Ba22C0FvC0Il252B525271010101u2Bk1610321633254c5216Dk0d0gcD504029103460101013154023544" ++
      "0hv31ZhBjBYmH46331cB51050&IiBditE4D5331Bt211017l412ZlBa1d6CfT!06c4BA9p6pBF5CfD0B34B3Dka1" ++
      "e16111a1e1611O30221B918BG5BidBiCtlalCYqBvVL0BvZM0Ck1C6112021231b10161C01327161r131410361" ++
      "Kj2o1o1u1o1u1o1u1o1u1o17BZk91j65I5BtCEiC3B*cp6p6p"
  | changesWhenCasefolded =>
    "C1pCq0am17B00101010101010101010101010101010101010101010101010101010201010101010101011101" ++
      "0101010101010101010101010101010101010101011101010111011122311123111101011102011121011307" ++
      "1111110101010101010102010101010101010102110121010101010101010101010101010101010101010101" ++
      "0101010101010107111201310101010Hm0Ba0103080601210111g18m0c231101010101010101010101010112" ++
      "110112BiBg010101010101010101010101010101010901010101010101010101010101010101010101010101" ++
      "0101010101110101010101020101010101010101010101010101010101010101010101010101010101010101" ++
      "01010101010101010101010101010102B5Bg0CYoB51050Za5CE296Ba22K00101010101010101010101010101" ++
      "0101010101010101010101010101010101010101010101010101010101010101010101010101010101010101" ++
      "0101010101010101010101010101010105120101010101010101010101010101010101010101010101010101" ++
      "0101010101010101010101010101010101010101010109785a78785b010101087gBf22255225b3c45225J903" ++
      "160Bdfj0ZipBZgBfBg0122010101310208210101010101010101010101010101010101010101010101010101" ++
      "010101010101010101010101010101010101010101010801040&Kd0101010101010101010101010101010101" ++
      "01010101010j010101010101010101010101010E701010101010103010101010101010101010101010101010" ++
      "1010101010101010101010101010a01011101010104010201030101010101010101010141410101010101010" ++
      "1310113050101010o0#qCfT!06c4BA9pBG5B7E8B3Esa1e1611BXaBiEtlCZqvVM0v&V0B1"
  | changesWhenCasemapped =>
    "C1p6pBq0am1u1Bv1Cj1r2d21104Cs1h6q1110113113142011207020113550a1F60Ba32132106012101j1Be3B" ++
      "0141E48F51B5aB6CYoB510502Ba22V0Cl25CE2a5Ba22Fp030g0DhEr201Dl252B525271010101u2Bk16103216" ++
      "33254c5216J903160r0hv31ZhBjBYmDg11117D57331cB51050&IiBdirE6d2Bt9e32241o1t2146o1!s0sCfT!0" ++
      "6c4BA9p6pBF5CfD0B34B3Dka1e16111a1e1611BW3BidBiCtlalCYqBvVL0Bv&U0C3"
  | changesWhenLowercased =>
    "C1pD5m16B1010101010101010101010101010101010101010101010101010101020101010101010102010101" ++
      "0101010101010101010101010101010101010101110103110111223111231111010111020111210113071111" ++
      "1101010101010101020101010101010101021101210101010101010101010101010101010101010101010101" ++
      "010101010107111201310101010J10103080601210111g18B308010101010101010101010105020112BiBg01" ++
      "0101010101010101010101010101010901010101010101010101010101010101010101010101010101010111" ++
      "0101010101020101010101010101010101010101010101010101010101010101010101010101010101010101" ++
      "01010101010101010102B5C!9B51050WiClCEj06Ba22K0010101010101010101010101010101010101010101" ++
      "0101010101010101010101010101010101010101010101010101010101010101010101010101010101010101" ++
      "0101010101010101010901010101010101010101010101010101010101010101010101010101010101010101" ++
      "010101010101010101010101010109785a78785b010101087o7878784b4b3c4b4J903160Bdfj0ZipBZgBfBg0" ++
      "1220101013102082101010101010101010101010101010101010101010101010101010101010101010101010" ++
      "10101010101010101010101010801040&Kd010101010101010101010101010101010101010101010j0101010" ++
      "10101010101010101010E7010101010101030101010101010101010101010101010101010101010101010101" ++
      "010101010a010111010101040102010301010101010101010101414101010101010101310113050101010o0V" ++
      "ZbpBG5B7E8B3Esa1e1611BXaBiEtlCZqvVM0v&V0B1"
  | changesWhenTitlecased =>
    "D1pBq0B9n1710101010101010101010101010101010101010101010101010101010201010101010101110101" ++
      "0101010101010101010101010101010101010101020101220102030502032202010102040203010203010401" ++
      "1111010101010101010111010101010101010121010301010101010101010101010101010101010101030101" ++
      "010101010101080211040101010151110113113142011207020113550a1F60Bb0103032i0rB2113210101010" ++
      "1010101010101014102020BkBf10101010101010101010101010101010109010101010101010101010101010" ++
      "1010101010101010101010101020101010101011101010101010101010101010101010101010101010101010" ++
      "101010101010101010101010101010101010101010101010BhB6DTg5CE2810He030g0Di01010101010101010" ++
      "1010101010101010101010101010101010101010101010101010101010101010101010101010101010101010" ++
      "1010101010101010101010101010101010101010101650101010101010101010101010101010101010101010" ++
      "101010101010101010101010101010101010101010101010101885a78785a7878d2787878411603211832187" ++
      "a211Km0B1f40!bpB!6Bf10311010106020a01010101010101010101010101010101010101010101010101010" ++
      "1010101010101010101010101010101010101010101010801040cB51050&Ij01010101010101010101010101" ++
      "0101010101010101010j010101010101010101010101010E7010101010101030101010101010101010101010" ++
      "101010101010101010101010101010101010a010201010101040401120101010101010101010b01010101010" ++
      "101040102030501010q0!s0sCfT!06c4BB9pBGdB7E8B3Era1e1611BY3BiDtlCZqvVM0v&V2B1"
  | changesWhenUppercased =>
    "D1pBq0B9n1710101010101010101010101010101010101010101010101010101010201010101010101110101" ++
      "0101010101010101010101010101010101010101020101220102030502032202010102040203010203010511" ++
      "1111010101010101011101010101010101011111030101010101010101010101010101010101010103010101" ++
      "0101010101080211040101010151110113113142011207020113550a1F60Bb0103032i0rB211321010101010" ++
      "10101010101014102020BkBf1010101010101010101010101010101010901010101010101010101010101010" ++
      "1010101010101010101010102010101010101110101010101010101010101010101010101010101010101010" ++
      "1010101010101010101010101010101010101010101010BhB6C!8Ba22Xo5CE2810He030g0Di0101010101010" ++
      "1010101010101010101010101010101010101010101010101010101010101010101010101010101010101010" ++
      "1010101010101010101010101010101010101010101010165010101010101010101010101010101010101010" ++
      "1010101010101010101010101010101010101010101010101010101885a78785a7878d2Bk114010321140332" ++
      "187a21140Kh0B1f40!bpB!6Bf10311010106020a010101010101010101010101010101010101010101010101" ++
      "010101010101010101010101010101010101010101010101010801040cB51050&Ij010101010101010101010" ++
      "101010101010101010101010j010101010101010101010101010E70101010101010301010101010101010101" ++
      "01010101010101010101010101010101010101010a010201010101040401120101010101010101010b010101" ++
      "01010101040102030501010q0!s0sCfT!06c4BB9pBGdB7E8B3Era1e1611BY3BiDtlCZqvVM0v&V2B1"
  | dash =>
    "Bd0BKs0Bj0DS10BA50CA95Bt0B70f0M60DA4020v140s0Nu0j0Df0BTMg1B50a0F90DT00Ju0"
  | defaultIgnorableCodePoint =>
    "Fd0V10Wc0C!21BSj1Cl4B*r4q4BhfEHk0BTErfHf0F00Cf8BPF73FGf7YLU5D*v"
  | deprecated =>
    "K90BJ90CI3010CB91CG55Vp1#XGm0"
  | diacritic =>
    "Cu010C70604021PnEu1755h14091Ht4Gh0Bng1q101110E6741E614132C3qCraBqaB21Du7B99grBt0g033s0Ca" ++
      "0g0De0g0De0g0Bf2Bs0g070Dn0De0g0De0g0Dd1g0Ds0Df0c510Db0d4Cb1r0101041C2211Bu0Dg011B8144p61" ++
      "0a1W12%k1u0Eka90Kr2J40k720Bge2aD80f0B68Bm1Bq0b1C21C05Cio406022BiBuCpbB5aNt012b2d2d2d1DHg" ++
      "2Jt0Pq5D93Cv0%Li0c110s1Ci1eB1D62Dd1c0B50En0rhBp3B40Cv0c0B40El2C13Bj0D4492E01TZg0Y1fIe010" ++
      "Bf0Bd1C30Xs0BEv51B918Tt240F51Rr5B60q4Mf2C6aBh3G00B90C81Do1Bu0Cc092D81Fi1Cg1g0o634Cp211d1" ++
      "Cv030Dr1Hr1Du0Dm1Dj0Id1I2140Es0Cj0i0Ch0N50I2011Ch0N91n0FHceLGp0CO04Br6Rk1R2gCg1P*u31611H" ++
      "Y1Bd2mR02358726u3DU2BtG26Ln0Bt3Xu1X06Dd212"
  | emoji =>
    "B306059Df040H$d0c0Go0m0Cq5f1Lf1c0F60pa42G70H71a090Bq314902021204020112030318250105bb1201" ++
      "110i021i5101131502141b15120511011k155132040202510201010603060a1f02040104210b1Bg290e0e0Lk" ++
      "1Of2j1Bj040BGq0c0Sp010DPLa0Ga0F01c1e029Cbp11n0k028l1FeB12Df21122Ci221I61Bub51n7127c02320" ++
      "41d120819052c28220104060306ClBgC557224930113029H3b40IrBe191FoDgc395Bn7e2a68"
  | emojiComponent =>
    "B306059H&j0Gl0BXJb0B$&mpPr4BNg3YBTcCv"
  | emojiModifier =>
    "D$*r4"
  | emojiModifierBase =>
    "JQt0Gr0g3DTDn0Bs22022Dl12ali3042127010o0G9140l041Fe234Cj0g290b0Rv02087609922Bo0Bt11110h2" ++
      "1cH52Ba8"
  | emojiPresentation =>
    "IYq1Gd33020Q91l1BibBb0j0d081h1518050l0711040207041s0B30104210Bt2o0e0!r1Bj040DRFe0Ga0Fu02" ++
      "9Cbp10o0k02412l1FeB0c81C51lcBa44cg303C6101Fq2Bud31ni0q1d0CmCkBgC560322243b178H3b40IrBe19" ++
      "1FoDgc395Bn7e2a68"
  | extendedPictographic =>
    "F9040H$d0c0Go0m0Cq5f1Lf1c0Cv0C60pa42G70H71a090Bq3151b1DhaDl2a1010603060a1f02040104210b4B" ++
      "d290e0e0Lk1Of2j1Bj040BGq0c0Sp010DPL6Hvd2v0Bs5c1e029iBorea0k028139Nh5Jt8I9BgDvDkbClBac3Bo" ++
      "7a5B87uChcBe191NoI0*t"
  | extender =>
    "Fn0Qo1#e0Np0Tm0E90Cp0Xg0Dv0CK30Bo0T30Me0C40E$90Bb4D71Ct2#Ym0BPm0&20m0E90Dc0l1VDr0CAg1BOb" ++
      "0r040BG70J50Dk1Pi2BGf0UF91BEs110$Ko1BFh0!k2"
  | graphemeBase =>
    "B0CuB1c1ShDg72546101j1Gv7F51B52Bh22Be01020209q45h9b01Bdlf1D48061204v201ttCob0eBa963n4090" ++
      "307e1o501a5uhB9BpBm10138312792s1117212l1610333011612110d1124n5015412l1611111142o31079221" ++
      "0c018121l16111433801130f14b708117212l16111430206121f1124hb015321331101131323b5011321230l" ++
      "k6217121m1f3033j2202149791a121m1914312011o1114912ea121B8201152121142194p211h3n1810269166" ++
      "7922cBf11b78cB5110141n1019119024109923B0n2q10101d1B3i05024Bh7151cB5Bc4060212o233f4c11251" ++
      "e1B710502Lo132610132B8132B0132610132e1Bo132C25s3p6Cl252Us3Co7hdi319hec12fBj207711b839696" ++
      "a596Co742B1105C5au43224115703B924bBb4p6a3Bo213Bn10901185d9696dCmBfa3371s9b2v416Bn102210d" ++
      "Bf815e3Bt5Ba2ab0d0731512205FvC0Il252B525271010101u2Bk1e1d251i22181a5n7Bgg12q1c3B0BvEb4Up" ++
      "malBYj2v1Kn315Bc10502Bn71fm9616161616161616B1CtB2p1CocGlqBp6f1Cl4D45Ba1Ct1Cl9Bf1$Tc3Bm9K" ++
      "rkBe40av2Cf258Gd211017lf12131o24496Bn8C3aboc1B58ob0ct6Bf1141211c1a461o1B86121b21710292v1" ++
      "Bi1031242010og27b5252596161Br4Dk1113396K%3cm4BgII4Ld2D9B66c4501n141011111DsgNs2Bl70B0fg9" ++
      "mB21i13441E64Es2u352525223616d12b1p1i111e2dB2Dq524Bc3Cn1c30BfBcE3s3Bggq4B39t5B5at1B44dBa" ++
      "Et296B34B34B78Bjbb1e16111a1e16113BjcJm9la7o51B918C55201Bb11302m1C788Bgi115B03q50C0Bn4j2B" ++
      "ef3121sa8787BvB0B46b9Bl3s2q5p73c6CgC8BnBidBi7B9c96B58n81Ggu1B93021g2BrB78lb8mh43B6rkm901" ++
      "Blf64t1120cBg412113eo799B3509h8B212bBj9017411f1jbh1r314511Bv610131e1a6Be12d98117212l1611" ++
      "14301013212130c6s910201B51011f011301211B7Bn81301k1012uBf11601110202389F6Be1163202qB4Bi81" ++
      "1023b96cjBa101181696jsq3011409mFpBe9020D4Cic72027111n1411631299C672B98313r0aB7614790613B" ++
      "dd028dC879FmB1e9681B5e015as3vp07020Cb6111B5l09965111B441101079Jmi239e1B3813mCm0fBhd$qD6D" ++
      "e14bG3CScD2dBBfh5pD$q5S6GVptc239BW6Ro7u194Cg196t70aBf7ea9161k5iNgBpG6CqD5Ca5BnbcC03sF*n8" ++
      "BGlB99IX7316111J2f0t220e38MbCI4Da5c38792020D#0Hp6NjEsDjBsHlaB62Br52m17t4BslC130DqjcjcCm9" ++
      "oE7Ck1C6112021231b10161C01327161r131410361Kj2J32RhBn3Bi71d16BDku65I5BtEiBca62941K0tiBb49" ++
      "50Ogr49Gmt2a40P0613111e1G428BgC3704941YhC3CcBsG231q1110201913101060401010121110201010101" ++
      "011102316131310191g52141gBk1IeBb4D3ce2e1e1B4aFdBosdBb4871e5Eq&n4g3c3Dm4Cu6b40fb4Bn896B78" ++
      "t2b41BuKjcd2c395Bn7e2a687Ei1D5BA6BJWvB0EBp6Gt2FU1eHJgfTdCN2QtBP2E!a5ECv"
  | graphemeExtend =>
    "Y0DfIj6I7Bc10111110C8aBgkg0D56252113B30uqCraBq890o3181214Bb2Br8Ban1vBn010474036a1t0Bq010" ++
      "238090a1q021Bp041412230u130b1Bp0441140k1m510Bq011138072a1u0Br010c090B8030Bn012521371b1t0" ++
      "Bq02110321371b1s1Bp110238090a1t0C8040221080Ch026c7D2028b6C91r01010Bnd14115a1B390D6315112" ++
      "1p142g3d02160f0Vv2%i3s2t1u1C0116802a90Bd210Dl1B20Dm2419062Gr120Bq0161010276920BguBh3Bg94" ++
      "2B68c1B0325Bo0113014Bo721Eo21c16406031G6BvQc0G3B0C*u2Ed0D0vRa5D91%Ok319B01Cg1Ig03040p150" ++
      "En1qhd0B67pa10Bc2Bg0232120B40C352121c080Bf0Bj012215110Ba180He02040TZg0X1fgfLe1St0H20El4B" ++
      "U621153B8240F51Rt3C14Jt1Cf3C6aBh3Dr0BmeB9021a2Bh32170Bt2B4417Bu0c1Bk8108320Cv2236020Et03" ++
      "7l1Bp11010c090e634C30251020124210e1Cl72210n0Ch02510201111Hb0236111r1Cl72011Da01027D50102" ++
      "314I3811Hl0a340Eg32140B09B8523809522Bec11Mm61510Cil261111Dq530111610C813010Kr1b1Bk452n0F" ++
      "H506eLG8b32CO04Br6BAo0Bv3Ch0b1TFb1ET1Bd2mQu4358726u3Ek2B%rBm4Bh80e0m41eBKg61g261114D40F0" ++
      "6Ln0Bt3Ps3Hu1X06Dd6YFWlCvE0Hf"
  | graphemeLink =>
    "CKd0Dv0Dv0Dv0Dv0Dv0Dv0Dv0Dd1g0Ds0Df0Dv0G90Fk1BWp1u0Et0Ud0H30D51C61EMb0&U60B50En0Ee0Dc0Jl" ++
      "0Hm0XSh0BQ60B90e0Bp0Dp1Eb0Dk0Fk0D20E02Dh0Dv0Hs0Dv0Dm0Dk0Id0I31F10Cj0i0Ch0N50I41Ch0N91QPc" ++
      "0"
  | hexDigit =>
    "Bg975q5B*V9975q5"
  | hyphen =>
    "Bd0Dv0BGs0ETr0CA91DQ50X30BTL70F90Cn0"
  | idsBinaryOperator =>
    "L*g129Ph0"
  | idsTrinaryOperator =>
    "L*i1"
  | idsUnaryOperator =>
    "L*u1"
  | idCompatMathContinue =>
    "Fi150H%m03a1eLj040m0DNF20p0v0p0v0p0v0p0v0p0"
  | idCompatMathStart =>
    "IQ2040m0DNF20p0v0p0v0p0v0p0v0p0"
  | idContinue =>
    "Bg97p401pBf0a010205m1u1O94be47010hDk11231064101j1Ci1Ea142F51B5206B88Bc101111108q43ta5C94" ++
      "D517291i20gBq2D4eBl40202Bdir4a5n158Ca1E0291i17212l1610332821238041142ba0102215412l161111" ++
      "11201441223073107fb218121l16111429121220f329961217212l1611142821227241142910g11532133110" ++
      "1131323b4432132060e9gc121m1f2812137112202329g317121m19142812137161132912cc121Bi121453742" ++
      "9a5121h3n181026304510176921dBp5e19B7110141n101m2410161923B00n169b01010491B34j1h1B390BpC9" ++
      "6Cd2B510502Ba1Kc132610132B8132B0132610132e1Bo132C22298efgCl253Tb2g1p5Ca3a7l9lbjcc1211cCj" ++
      "304129B121a6Co7Ba5C5au1b4baB724bBb4p6aB5r4Bu1s2a69d08d1fBhCc39h8cDjcBn893Bg2a5Ba22g21B65" ++
      "Ql252B525271010101u2Bk1610321633254c5216f1Bh1j0s0d0gcBjc403bh0402910256010101f235440hB8C" ++
      "TnH468cB510502Bn70fn96161616161616161vQ52pe14244Cl261Cu5Ba1CthvBgfQ0GNvC0VUcC3Bd2Ic3rkBf" ++
      "491DiB582D62C2211017lBl40jBjcC5a96n301Bg2B3cs3C0ea6u1Bm9d296m3C8o22f24a5252596161Ba1d6Dq" ++
      "11296K%3cm4BgII4Ld2D9B66c45b1c141011111DbB1LaiBv2BlB8b4fgf31o2B041E6j97p401paCp35252522B" ++
      "3b1p1i111e2dB2DqC5BkE80E2s3Bgf0vvdt5Ba5t2B34714BaEt296B34B34B78Bjca1e16111a1e16113BjcJm9" ++
      "la7o51B918C55201Bb11302mam9uC1i11alapC6Bn61C031157121s2240B0s3sB371tpBlalaidhDeC8BnBidBi" ++
      "dB7896B5341mHqB91131g2BnB0a08B0vlBakrm9C6vf9Br70do796Bk19438B3209C4431c10B3h1B463Bu61013" ++
      "1e197Bq596317212l1611141921222060562634b910201B51910201317d1tCa5943uC51089F6Bl28n5B2C030" ++
      "b9B6Bo796jsq2e4966FpBqD5C9l72027111t1128c9C672Bd2711rBu808C930iC8G7B0f9681Bc18f9ot2l1dC9" ++
      "6111Bb3011188965111B4111579Jmm9g1B834daCl0Cf$pD6DehG3CScD0fBBfglaD$q5S6GVpBpBW6Ro7u196Ce" ++
      "196t24bBm93c99k5iNgBc39G6BvE0Ca4Bo7gC0111b1eF*n8BGlB99IX7316111J2f0t220e38MbCI4Da5c38793" ++
      "1ECh9Q6Bd2mQu4358726u3Ek2NrCk1C6112021231b10161C01327161r131410361Kj2o1o1u1o1u1o1u1o1u1o" ++
      "172BhQ0Bm4Bh80e0m41eBCgu65Gl61g2611145BtB10DgBc3d2940K1uhBpOmB9GmBaP5613111e1G4b6B9Cb49B" ++
      "F631q1110201913101060401010121110201010101011102316131310191g52141gDJk9BA6BJWvB0EBp6Gt2F" ++
      "U1eHJgfTdCN2QtBP2E!a5ECvVXKgHf"
  | idStart =>
    "C1p6pBf0a0405m1u1O94be47010E141123106012101j1Ci1Ea8F51B5206B8C7q43BdBaB311D210f171a220g0" ++
      "1ttCob0oB091405l409030no7a5n15hB9BqBl30i079ff47212l16103330g0d112e1a085412l16111111v310j" ++
      "2g8121l16111430i0f1n0b7212l16111430u112f0h015321331101131323bm0Bk7121m1f30q22021u047121m" ++
      "191430v111f1h8121B820g05282o55h3n181026BqBf11c6Bq110141n101911902410l3B00Bv71B3r4DjBak0g" ++
      "5433031724cc0hB510502Ba1Kc132610132B8132B0132610132e1Bo132C2B5fgCl253Tb2g1p5Ca3a7hdiehec" ++
      "12fBjB3040C3Co7B8105C5auBht24bBb4pBmm9BkCi0CtBeh7Bmtd1aBbqB3B92aB32a5Ba22B931511305FvC0I" ++
      "l252B525271010101u2Bk1610321633254c5216Dk0d0gcD50402910256010101f235440hB8CTnH46331cB510" ++
      "502Bn70gm9616161616161616R62p874244Cl441Cp135Ba1CthvBgfQ0GNvC0VUcC3Bd2Ic3fa1kBegu2CfB782" ++
      "D62C2211017lf12131mtBjeBhBu53011bramps7Bes0g419a41B8n217km303Bh1031242010o22a72c52525961" ++
      "61Ba1d6DitK%3cm4BgII4Ld2D9B66c450191c141011111DbB1LaiBv2BlB8bDk41E6B4p6pbCo35252522B3b1p" ++
      "1i111e2dB2DqC5BkIbs3BgBfvdt5B5at2B34714BaEtiB34B34B78Bjca1e16111a1e16113BjcJm9la7o51B918" ++
      "C55201Bb11302mam9uC1i11alapC6Bn61C00f3121sBas3sB371rrBlalaidhDeC8BnBidBidB3B6r9mHqB961g2" ++
      "Brsa08lBahBekrmcBkBp120dBcB0oqB3t0208B230cBfe3l010B3h1oj1Bv610131e197BeB67212l16111430i0" ++
      "c4u910201B510p010BcBki3k2uBfk110FoBeB93B4Bfk0BrBad0C7qB56FpBbDkBvv72027111nf010Cu72B6g01" ++
      "0s0aB770l0bBdj0iC8G7B0v81B4h0BhtDg6111B5l0p5111ve0K7if01c1B1Ds0Cf$pD6DehG3CScD0fBBfh5pD$" ++
      "q5S6GVptBX2Ro7uhCehtiBfg3vk5iNgBcGjBvE0Ca50C2cC0110sF*n8BGlB99IX7316111J2f0t220e38MbCI4D" ++
      "a5c3879F#6Ck1C6112021231b10161C01327161r131410361Kj2o1o1u1o1u1o1u1o1u1o17BZku65I5BtEiBca" ++
      "6g0K1tiBbP4rH4t20Pf613111e1G4BrC370BFk31q11102019131010604010101211102010101010111023161" ++
      "31310191g52141gEK4BJWvB0EBp6Gt2FU1eHJgfTdCN2QtBP2E!a5ECv"
  | ideographic =>
    "MA61p8e2&5GNvC0UPvWI0Ld2D9%Ia0rF*n8BGlB99JD7MbTI4BJWvB0EBp6Gt2FU1eHJgfTdCN2QtBP2E!a5ECv"
  | joinControl =>
    "IAc1"
  | logicalOrderException =>
    "DS04Dr4CXg220BEHq12011"
  | lowercase =>
    "D1pBf0a040B4n171010101010101010101010101010101010101010101010101010101110101010101010111" ++
      "0101010101010101010101010101010101010101010102010122010203140203220201010201110203010212" ++
      "2602020101010101010101110101010101010101120103010101010101010101010101010101010101010101" ++
      "01010101010101016202110401010101C41B371u4D00Bb0103023i0rB2113210101010101010101010101410" ++
      "2021BjBf10101010101010101010101010101010109010101010101010101010101010101010101010101010" ++
      "1010101020101010101011101010101010101010101010101010101010101010101010101010101010101010" ++
      "101010101010101010101010101010BgB8C!7Ba13Xo5CE2810DlFvC101010101010101010101010101010101" ++
      "0101010101010101010101010101010101010101010101010101010101010101010101010101010101010101" ++
      "0101010101010101010101010101810101010101010101010101010101010101010101010101010101010101" ++
      "01010101010101010101010101010101010101885a78785a7878d2787878411603211832187a211Dp0d0gcDd" ++
      "03130r04040218340B1f40!bpB!6Bf1031101010401117301010101010101010101010101010101010101010" ++
      "1010101010101010101010101010101010101010101010101010101011701040cB51050&Ij01010101010101" ++
      "0101010101010101010101010101010j010101010101010101010101012E5010101010101210101010101010" ++
      "1010101010101010101010101010101010101010101010191010201010101040102012101010101010101010" ++
      "10505010101010101010401020301010101010m21012ZlBa1d6CfT!06c4BB9pBGdB7E8B3Era1e1611O30221B" ++
      "918BI5BiDtlCZqvVM0vZMqpq61hqpq310161aqpqpqpqpqpqpqpqpqrso15qo15qo15qo15qo1510BZk91j65I5B" ++
      "tCFkB1"
  | math =>
    "Bb0g2v0t010Bd040B50v0Wo220q122Qf2GQd0r2b030d0e3l4b4C1c403144i04029102560312112153d10C4n1" ++
      "511414v1061eIb83k1Cq0uq10o0b6Nt1c945412134e01025b751Bp010t392KgBvI0PvBgk25BT&s0Zn510F20g" ++
      "2t010t010E3063DN11BRTgCk1C6112021231b10161C01327161r131410361Kj2J32BhFQ031q1110201913101" ++
      "060401010121110201010101011102316131310191g52141gBk1"
  | modifierCombiningMark =>
    "BSk120E306031P111230v0"
  | noncharacterCodePoint =>
    "B*OgvQe1B**u1B**u1B**u1B**u1B**u1B**u1B**u1B**u1B**u1B**u1B**u1B**u1B**u1B**u1B**u1B**u1"
  | otherAlphabetic =>
    "!50tcS0d10111110C8aBgc16g0D56432140B30ufD6aD51381213Da0Bsb366jBm12e1152a1t2Bq62121a0a1t2" ++
      "Bq4412140u130b2Bq71211l1m242Bq6212191a1u0Br43212a0B84Bp6121281b1t2Bq6121281b1f0c3Bq61212" ++
      "a0a1t2Cb51017i1Bt026i0D302511g0F3i9a1B3Deb1023n342122633db10a3BTk1u1u1u1C2iFs1B20Dmb48Gu" ++
      "4Bp92jCa1b2Bh4BgeBs2u821BpaBiiMsB1BW1BjCHmv&Dk7B21L2080n4Co1Bif10Bp0B64sbBd3BgbB50C3dc08" ++
      "1Bd2Bi0122150Bc450Hd7TZj0CCn4BU621153Yk3C10K11Cf0I32BldBd1b2Bd890Bt2B4bi1Bp2Bgce1Cs82060" ++
      "20Et9n3Bq62121a0a1Ck810201311D7c12DahHd626t1Cie10DaaD7dI1cHn511213010Ee62540s9Ba413iaBed" ++
      "Mn716Cjl1dDq53011121030C241113Ks39110Bg632QOtgDR001Bm73Ct1TFc0I#161g261114D40CFn0B*8p6p6" ++
      "p"
  | otherDefaultIgnorableCodePoint =>
    "!f0DQf1BSj1CFf0EHu0BTRr0Cf8!AA701tD0DvHgDQf"
  | otherGraphemeExtend =>
    "CNu0o0L60o0D60o0H8010411191D70o0Dn0f0CJl0u0BA00501051D50C71BAo0EB11&J30Dc0VOt1ER00Dk0I80" ++
      "e090D0090201250H00c0Hh0I60Tp0c0BQ30UFe1YLj165YLVdCv"
  | otherIDContinue =>
    "Fn0Wf0D*18BT80BRh1EHd0BTT90"
  | otherIDStart =>
    "GE51CEh0l0D#c1"
  | otherLowercase =>
    "Fa0f0Pl871u4D00Bk0DM10DBfBud0B2B4Vh0d0gcGjf!gpB$i1&Qu1Gi0E1231#2390XAm0221B918BWDlBt"
  | otherMath =>
    "Cu0#h220q121HB00r2b0B03o1e1C1c403144i04029103460312112153354Cb4231111101421414h211016106" ++
      "1J23F8110o0h0Nt1c854512134e01025o1Bp010t391Km1v9MjlBv3B01BVD301040Gj010BVG1Ck1C611202123" ++
      "1b10161C01327161r131410361Kj2o1o1u1o1u1o1u1o1u1o172BhFQ031q11102019131010604010101211102" ++
      "01010101011102316131310191g52141g"
  | otherUppercase =>
    "IL0f!6pDTD0p6p6p"
  | patternSyntax =>
    "B1ea6q310q3B2610111011404030n0v0HYon8e2i19JhWfF0TluBDbQ0DvM124of0BTId1I51"
  | patternWhiteSpace =>
    "94i0D40H$81o1"
  | prependedConcatenationMark =>
    "BQ05Gn0Bh0M01Cg0CB&q0f0"
  | quotationMark =>
    "B2040E30f0H!s7p1DQ70O93d2BTR13Ft040Cq1"
  | radical =>
    "LU0p1CocGl"
  | regionalIndicator =>
    "D$P6p"
  | sentenceTerminal =>
    "B10c0g0BK90Ej2Fk0Bb2Hm0Bt01031J51BX41Ym041Y50G61Et1Bd050Jq1L23F21a121t2Fr1C11%40n192DFf2" ++
      "Ji0d0m1Nd0%Hs0Ie1H3030Lu1Cm1Cv0Eo1Ej2Eg1Hp0UR6021Br031F90c0g0C10CXk1BHt4Bc3Ft1Dl3Dv2E116" ++
      "0g1Co111Dc0Ja1Dl1Ll15eD91Hp2Q5010Hr1Cn1N41Vk1Ca1SZ91E50C11b0R91J80TQ60HP80"
  | softDotted =>
    "D91G40Ip0u0Bk0k0K00D2010GI90Bj0d030E40Et0N50Gm1CZi0DJ%51Bi1Bi1Bi1Bi1Bi1Bi1Bi1Bi1Bi1Bi1Bi" ++
      "1Bi1CE60Jh1q0"
  | terminalPunctuation =>
    "B10a010b130Zu080Q10Bp0C80e012Fk0Bba10Hb1Bm517v0I51BHk1Fc045Jn1Yl7Y50Ds2C71Et230B7321Jq1L" ++
      "23F21a112t2Fr4Bu1%40n192DFf2Ji0d040a01131Nc1%Hr1Id2H34Lu1Cm1Cv0En2Ej2Dv0g1Hp0UR6021Bp213" ++
      "F90a010b130C1020BBq0Bg0BE60G70Jm1Eo5C45Cp3%o4Bc3Ft6Dg3Dv2E1160g1Co4Dc0Ja1Dl2c1L633eD91Hp" ++
      "2Q5010Hr1Cn141Mu2Bd0U51Ca1BJb4RPp1E50C12a0R91J71TQ60HP73"
  | unifiedIdeograph =>
    "NA0GNvC0UPvWQe11011a0101122CBOmBJWvB0EBp6Gt2FU1eHJgfTdEN2E!a5ECv"
  | uppercase =>
    "C1pD5m16B1010101010101010101010101010101010101010101010101010101020101010101010102010101" ++
      "0101010101010101010101010101010101010101110103110111223111231111010111020111210113070202" ++
      "0201010101010101020101010101010101020201210101010101010101010101010101010101010101010101" ++
      "010101010107111201310101010J10103080601210111g18B30223010101010101010101010105020112BiBg" ++
      "0101010101010101010101010101010109010101010101010101010101010101010101010101010101010101" ++
      "1101010101010201010101010101010101010101010101010101010101010101010101010101010101010101" ++
      "0101010101010101010102B5C!9B51050WiClCEj06Ba22K00101010101010101010101010101010101010101" ++
      "0101010101010101010101010101010101010101010101010101010101010101010101010101010101010101" ++
      "0101010101010101010109010101010101010101010101010101010101010101010101010101010101010101" ++
      "01010101010101010101010101010109785a78785b010101087C83c3c3c4b3I6040322220346010101323a15" ++
      "0qfj0ZipBZgBfBg0122010101310208210101010101010101010101010101010101010101010101010101010" ++
      "101010101010101010101010101010101010101010801040&Kd0101010101010101010101010101010101010" ++
      "10101010j010101010101010101010101010E701010101010103010101010101010101010101010101010101" ++
      "0101010101010101010101010a01011101010104010201030101010101010101010141410101010101010131" ++
      "0113050101010o0VZbpBG5B7E8B3Esa1e1611BXaBiEtlCZqvVM0vZN0pqpqpq01120212317qpq1132716r1131" ++
      "41036rpqpqpqpqpqpuoB1oB1oB1oB1oB10EJlB1CAep6p6p"
  | variationSelector =>
    "GAb210BZPgf!AXgHf"
  | whiteSpace =>
    "94i0D40q0FOv0CLvat150Bf0D%00"
  | xidContinue =>
    "Bg97p401pBf0a010205m1u1O94be47010hDk11321064101j1Ci1Ea142F51B5206B88Bc101111108q43ta5C94" ++
      "D517291i20gBq2D4eBl40202Bdir4a5n158Ca1E0291i17212l1610332821238041142ba0102215412l161111" ++
      "11201441223073107fb218121l16111429121220f329961217212l1611142821227241142910g11532133110" ++
      "1131323b4432132060e9gc121m1f2812137112202329g317121m19142812137161132912cc121Bi121453742" ++
      "9a5121h3n181026304510176921dBp5e19B7110141n101m2410161923B00n169b01010491B34j1h1B390BpC9" ++
      "6Cd2B510502Ba1Kc132610132B8132B0132610132e1Bo132C22298efgCl253Tb2g1p5Ca3a7l9lbjcc1211cCj" ++
      "304129B121a6Co7Ba5C5au1b4baB724bBb4p6aB5r4Bu1s2a69d08d1fBhCc39h8cDjcBn893Bg2a5Ba22g21B65" ++
      "Ql252B525271010101u2Bk1610321633254c5216f1Bh1j0s0d0gcBjc403bh0402910256010101f235440hB8C" ++
      "TnH468cB510502Bn70fn96161616161616161vQ52pe14244Cl21221Cu5Ba1CthvBgfQ0GNvC0VUcC3Bd2Ic3rk" ++
      "Bf491DiB582D62C2211017lBl40jBjcC5a96n301Bg2B3cs3C0ea6u1Bm9d296m3C8o22f24a5252596161Ba1d6" ++
      "Dq11296K%3cm4BgII4Ld2D9B66c45b1c141011111DbB1Ea6GpiBv2BlB896fgf31o2B1010301010101Dtj97p4" ++
      "01paCp35252522B3b1p1i111e2dB2DqC5BkE80E2s3Bgf0vvdt5Ba5t2B34714BaEt296B34B34B78Bjca1e1611" ++
      "1a1e16113BjcJm9la7o51B918C55201Bb11302mam9uC1i11alapC6Bn61C031157121s2240B0s3sB371tpBlal" ++
      "aidhDeC8BnBidBidB7896B5341mHqB91131g2BnB0a08B0vlBakrm9C6vf9Br70do796Bk19438B3209C4431c10" ++
      "B3h1B463Bu610131e197Bq596317212l1611141921222060562634b910201B51910201317d1tCa5943uC5108" ++
      "9F6Bl28n5B2C030b9B6Bo796jsq2e4966FpBqD5C9l72027111t1128c9C672Bd2711rBu808C930iC8G7B0f968" ++
      "1Bc18f9ot2l1dC96111Bb3011188965111B4111579Jmm9g1B834daCl0Cf$pD6DehG3CScD0fBBfglaD$q5S6GV" ++
      "pBpBW6Ro7u196Ce196t24bBm93c99k5iNgBc39G6BvE0Ca4Bo7gC0111b1eF*n8BGlB99IX7316111J2f0t220e3" ++
      "8MbCI4Da5c387931ECh9Q6Bd2mQu4358726u3Ek2NrCk1C6112021231b10161C01327161r131410361Kj2o1o1" ++
      "u1o1u1o1u1o1u1o172BhQ0Bm4Bh80e0m41eBCgu65Gl61g2611145BtB10DgBc3d2940K1uhBpOmB9GmBaP56131" ++
      "11e1G4b6B9Cb49BF631q1110201913101060401010121110201010101011102316131310191g52141gDJk9BA" ++
      "6BJWvB0EBp6Gt2FU1eHJgfTdCN2QtBP2E!a5ECvVXKgHf"
  | xidStart =>
    "C1p6pBf0a0405m1u1O94be47010E141132106012101j1Ci1Ea8F51B5206B8C7q43BdBaB311D210f171a220g0" ++
      "1ttCob0oB091405l409030no7a5n15hB9BqBl30i079ff47212l16103330g0d112e1a085412l16111111v310j" ++
      "2g8121l16111430i0f1n0b7212l16111430u112f0h015321331101131323bm0Bk7121m1f30q22021u047121m" ++
      "191430v111f1h8121B820g05282o55h3n181026BqBf10d6Bq110141n101910a02410l3B00Bv71B3r4DjBak0g" ++
      "5433031724cc0hB510502Ba1Kc132610132B8132B0132610132e1Bo132C2B5fgCl253Tb2g1p5Ca3a7hdiehec" ++
      "12fBjB3040C3Co7B8105C5auBht24bBb4pBmm9BkCi0CtBeh7Bmtd1aBbqB3B92aB32a5Ba22B931511305FvC0I" ++
      "l252B525271010101u2Bk1610321633254c5216Dk0d0gcD50402910256010101f235440hB8CTnH46331cB510" ++
      "502Bn70gm9616161616161616R62p874244Cl621Cp135Ba1CthvBgfQ0GNvC0VUcC3Bd2Ic3fa1kBegu2CfB782" ++
      "D62C2211017lf12131mtBjeBhBu53011bramps7Bes0g419a41B8n217km303Bh1031242010o22a72c52525961" ++
      "61Ba1d6DitK%3cm4BgII4Ld2D9B66c450191c141011111DbB1Ea6GpiBv2BlB89Dn010301010101DtB4p6pbBn" ++
      "2u35252522B3b1p1i111e2dB2DqC5BkIbs3BgBfvdt5B5at2B34714BaEtiB34B34B78Bjca1e16111a1e16113B" ++
      "jcJm9la7o51B918C55201Bb11302mam9uC1i11alapC6Bn61C00f3121sBas3sB371rrBlalaidhDeC8BnBidBid" ++
      "B3B6r9mHqB961g2Brsa08lBahBekrmcBkBp120dBcB0oqB3t0208B230cBfe3l010B3h1oj1Bv610131e197BeB6" ++
      "7212l16111430i0c4u910201B510p010BcBki3k2uBfk110FoBeB93B4Bfk0BrBad0C7qB56FpBbDkBvv7202711" ++
      "1nf010Cu72B6g010s0aB770l0bBdj0iC8G7B0v81B4h0BhtDg6111B5l0p5111ve0K7if01c1B1Ds0Cf$pD6DehG" ++
      "3CScD0fBBfh5pD$q5S6GVptBX2Ro7uhCehtiBfg3vk5iNgBcGjBvE0Ca50C2cC0110sF*n8BGlB99IX7316111J2" ++
      "f0t220e38MbCI4Da5c3879F#6Ck1C6112021231b10161C01327161r131410361Kj2o1o1u1o1u1o1u1o1u1o17" ++
      "BZku65I5BtEiBca6g0K1tiBbP4rH4t20Pf613111e1G4BrC370BFk31q11102019131010604010101211102010" ++
      "10101011102316131310191g52141gEK4BJWvB0EBp6Gt2FU1eHJgfTdCN2QtBP2E!a5ECv"

def ranges (p : Property) : Ranges := Ranges.ofCode p.rangeCode

end Property

end FormatScan.Unicode
