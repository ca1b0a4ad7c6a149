import FormatScan.Unicode.RangeCode
/-!
General categories of characters.
-/

namespace FormatScan.Unicode

inductive Category where
  | control
  | format
  | unassigned
  | privateUse
  | surrogate
  | lowercaseLetter
  | modifierLetter
  | otherLetter
  | titlecaseLetter
  | uppercaseLetter
  | spacingMark
  | enclosingMark
  | nonspacingMark
  | decimalNumber
  | letterNumber
  | otherNumber
  | connectorPunctuation
  | dashPunctuation
  | closePunctuation
  | finalPunctuation
  | initialPunctuation
  | otherPunctuation
  | openPunctuation
  | currencySymbol
  | modifierSymbol
  | mathSymbol
  | otherSymbol
  | lineSeparator
  | paragraphSeparator
  | spaceSeparator
deriving DecidableEq

namespace Category

def all : List Category :=
  [.control, .format, .unassigned, .privateUse, .surrogate, .lowercaseLetter, .modifierLetter,
   .otherLetter, .titlecaseLetter, .uppercaseLetter, .spacingMark, .enclosingMark,
   .nonspacingMark, .decimalNumber, .letterNumber, .otherNumber, .connectorPunctuation,
   .dashPunctuation, .closePunctuation, .finalPunctuation, .initialPunctuation,
   .otherPunctuation, .openPunctuation, .currencySymbol, .modifierSymbol, .mathSymbol,
   .otherSymbol, .lineSeparator, .paragraphSeparator, .spaceSeparator]

/-- The categories that a name of a category or of a group of categories stands for. The name is
in lower case and without separators; surrogates are no characters, so their own name stands for
nothing here. -/
def ofName? : String → Option (List Category)
  | "c" | "other" => some [.control, .format, .unassigned, .privateUse, .surrogate]
  | "cc" | "cntrl" | "control" => some [.control]
  | "cf" | "format" => some [.format]
  | "cn" | "unassigned" => some [.unassigned]
  | "co" | "privateuse" => some [.privateUse]
  | "l" | "letter" =>
    some [.lowercaseLetter, .modifierLetter, .otherLetter, .titlecaseLetter, .uppercaseLetter]
  | "lc" | "casedletter" => some [.lowercaseLetter, .titlecaseLetter, .uppercaseLetter]
  | "ll" | "lowercaseletter" => some [.lowercaseLetter]
  | "lm" | "modifierletter" => some [.modifierLetter]
  | "lo" | "otherletter" => some [.otherLetter]
  | "lt" | "titlecaseletter" => some [.titlecaseLetter]
  | "lu" | "uppercaseletter" => some [.uppercaseLetter]
  | "m" | "mark" | "combiningmark" => some [.spacingMark, .enclosingMark, .nonspacingMark]
  | "mc" | "spacingmark" => some [.spacingMark]
  | "me" | "enclosingmark" => some [.enclosingMark]
  | "mn" | "nonspacingmark" => some [.nonspacingMark]
  | "n" | "number" => some [.decimalNumber, .letterNumber, .otherNumber]
  | "nd" | "digit" | "decimalnumber" => some [.decimalNumber]
  | "nl" | "letternumber" => some [.letterNumber]
  | "no" | "othernumber" => some [.otherNumber]
  | "p" | "punct" | "punctuation" =>
    some [.connectorPunctuation, .dashPunctuation, .closePunctuation, .finalPunctuation,
      .initialPunctuation, .otherPunctuation, .openPunctuation]
  | "pc" | "connectorpunctuation" => some [.connectorPunctuation]
  | "pd" | "dashpunctuation" => some [.dashPunctuation]
  | "pe" | "closepunctuation" => some [.closePunctuation]
  | "pf" | "finalpunctuation" => some [.finalPunctuation]
  | "pi" | "initialpunctuation" => some [.initialPunctuation]
  | "po" | "otherpunctuation" => some [.otherPunctuation]
  | "ps" | "openpunctuation" => some [.openPunctuation]
  | "s" | "symbol" => some [.currencySymbol, .modifierSymbol, .mathSymbol, .otherSymbol]
  | "sc" | "currencysymbol" => some [.currencySymbol]
  | "sk" | "modifiersymbol" => some [.modifierSymbol]
  | "sm" | "mathsymbol" => some [.mathSymbol]
  | "so" | "othersymbol" => some [.otherSymbol]
  | "z" | "separator" => some [.lineSeparator, .paragraphSeparator, .spaceSeparator]
  | "zl" | "lineseparator" => some [.lineSeparator]
  | "zp" | "paragraphseparator" => some [.paragraphSeparator]
  | "zs" | "spaceseparator" => some [.spaceSeparator]
  | _ => none

/-- Runs of characters of one category, in the order of their code points. -/
def runCode : String :=
  "0vt0l2n0l2m0i0l0p0l0h0l1d9l1p2l19pm0l0i0o0g0o05pm0p0i0p00B0t0l0n3q0l0o0q070k0p010q0o0q0p" ++
    "0f1o050l1o0f070j0f2l09mp0965np0579050905090509050905090509050905090509050905090509050905" ++
    "0905090509050905090509050905090509050905090509050905090519050905090509050905090509050905" ++
    "1905090509050905090509050905090509050905090509050905090509050905090509050905090509050905" ++
    "0905091509050905291509050915092519350915092529150915090509050915090519050915092509050915" ++
    "1709052739080509080509080509050905090509050905090509050905190509050905090509050905090509" ++
    "0509051908050905092509050905090509050905090509050905090509050905090509050905090509050905" ++
    "09050905090509050905090509050905090509050905090569150915190509350905090509050905C4705q6h" ++
    "o36bod64o660o060ogcDf9050905060o09050216052l09023o190l09220902091509g20985B2905192529050" ++
    "905090509050905090509050905090509050905090549050p0905091519Bi5Bf905090509050905090509050" ++
    "90509050905090509050905090509050905090509050q0c4b190509050905090509050905090509050905090" ++
    "5090509050905090509050905090509050905090509050905090509050905090509050915090509050905090" ++
    "5090509051905090509050905090509050905090509050905090509050905090509050905090509050905090" ++
    "5090509050905090509050905090509050905090509050905090509050905090509050905090509050905090" ++
    "50905090509050905090509050209B52160l55B8l0h021q1n020cBch0c0l0c1l0c1l0c0277q2373l12a15p2l" ++
    "1n0l1q1cal010l27v6079ckd9l371c07D2l070c610q0c561c1q0c371d972q170ld201070c07tcq217Coca702" ++
    "dd97B0c861q0l26021c0n17lc360c860c260c421le207oc221l0207a247no075201124c87B860cn10cva07Bl" ++
    "c0a0c070a2c7a3c0a170c679c1l1d9l0607ec0a120772171217l20762070227321c070a2c321a121a1c07027" ++
    "a023712072c121d971n1f5q0n070l0c021c1a020752371217l207620712071207121c020a2c123c121c222c0" ++
    "2673207026d9c172c0l029c1a020782072207l20762071207421c070a2c420c1a020a1c021702e71c121d9l0" ++
    "n02670c520c0a120772171217l20762071207421c070a0c0a0c321a121a1c026c1a023712072c121d9q070f5" ++
    "29c07020752272207322712070207122712272227b23a1c0a122a220a2c0217025a02dd9f2q5n0q024c0a2c0" ++
    "772072207m207f21c070c2a320c220c326c1207221702171c121d926l0f6q070c0a1l0772072207m20792074" ++
    "21c070a0c0a420c0a120a1c126a125712071c121d92071a02bc1a1782072207B8c170a2c320a220a2c070q02" ++
    "372a0f672c121d9f8q07520c0a1207h227n20782070217622c023a2c220c020a725d921a1l02b7Bfc071c623" ++
    "n07560c7l0d9l12B47120702074207n20702079c071c8702174206020c620d921732v70q2leq0l0q2c1q5d9f" ++
    "9q0c0q0c0q0c0m0i0m0i0a177207B323cda0c4l0c174ca20cB320q7c0q520q1l4q3l12B47Baa1c3a0c5a0c1a" ++
    "1c170d9l575a1c173c270a271a672c37cc0a1c1a5c070a0d9a2c0q19B520902490215Bal060527K820732176" ++
    "20702073217B82073217B02073217620702073217e207Bo2073217C221c2l8fj227fq9259Cl215521h07Tbq0" ++
    "l07gt07pm0i0227Cal2e277267hc2a0287ic1a0l1287hc12b7c207220c12b7Bjc1a0c6a7c0a1cal260l2n070" ++
    "c021d925f925l5h0l3c210c0d9257B2607Bk2674c17B1c070247C5297u20c2a3c1a223a1c0a5c223q022l1d9" ++
    "7t21742a7Bb237p25d9f022qB17mc1a1c021l17Bka0c0a0c620c0a0c0a1c7a5c921c0d925d925l660l521cdb" ++
    "0cf2Bgc3a07Bec0a0c4a0c0a4c0a17720l1d9l6q9c8q8l2c1a07ta0c3a1c1a0c271d97Bbc0a0c1a2c0a0c2a1" ++
    "27l37B3a7c7a1c122l4d92272d97t65l1589050249Ba2192l727c2l0cca0c673c075c071a0c170245Bb6Bu5c" ++
    "605B16B4cBv90509050905090509050905090509050905090509050905090509050905090509050905090509" ++
    "0509050905090509050905090509050905090509050905090509050905090509050905090509050905090509" ++
    "0509050905090509050905090509050905090509050905090509050905090509050905090509050905090509" ++
    "0509050905090509050905090509050905090509050905890509050905090509050905090509050905090509" ++
    "0509050905090509050905090509050905090509050905090509050905090509050905090509050905090509" ++
    "0509050905090509050905090509050905090509050905090509050905090509058975521952157975797552" ++
    "1952157209020902090209057975d215787578757875420519380o050o25220519380o25321519320o25794o" ++
    "2215220519380o120ta14h5l1k0j0m0k1j0m0k0l7r0s014t0l8k0j0l3g1l2p0m0i0lap0l0g0l9t0142019f06" ++
    "021f5p2m0i060f9p2m0i0206c22nB02eccb3c0b2cb2eq190q390q15092519250q090q1p094q590q090q090q0" ++
    "93q05093507350q15191p49053q0p0q150q0ffeB29050e3f0q123p4q4p1q3p0q1p0q1p0q6p0qup1q1p0q0p0q" ++
    "upIbq7m0i0m0i0qjp1q6m0i0qCgp0qtpoqB7p5qC72lqa2kfBrqCdflqFmp0q8p0qBlp7qDep0qHnm0i0m0i0m0i" ++
    "0m0i0m0i0m0i0m0i0ftqBbp4m0i0pum0i0m0i0m0i0m0i0m0i0pfqHvpE2m0i0m0i0m0i0m0i0m0i0m0i0m0i0m0" ++
    "i0m0i0m0i0m0i0pBum0i0m0i0pvm0i0pI1qBfpkq1p5qB621qv20qD89Bf5Bf905092519050905090509350905" ++
    "1905561925090509050905090509050905090509050905090509050905090509050905090509050905090509" ++
    "0509050905090509050905090509050905090509050905090509050905090509050905090509050905090509" ++
    "0509050905090509050905090509051q590509050c2905024l3f0l15B520502450217Bn2660l02dc07m28762" ++
    "07620762076207620762076207620cvl1k0j0k0j0l2k0j0l0k0j0l8h0l1h0l0k0j0l1k0j0m0i0m0i0m0i0m0i" ++
    "0l460l9h1l3h0l0m0lcq1l2m0i0m0i0m0i0m0i0h02B1qp20qCo2bqGl2pqft0l2q06070e0m0i0m0i0m0i0m0i0" ++
    "m0i0q1m0i0m0i0m0i0m0i0h0m0i1q0e8c3a1h064q1e26070l0q1207Cl21c1o16170h07Cpl06270247Ba207Ct" ++
    "20q1f3q97vqB528q07fqu20f9qtf7q0feqvf9qB6feqJv7GNvqBv7UQk607BDm22qBm287B765l17Ib60l27fd97" ++
    "12j9050905090509050905090509050905090509050905090509050905090509050905090509050905090509" ++
    "050905070c0b2l0c9l0609050905090509050905090509050905090509050905090509050905061c17C5e9c1" ++
    "l527om68o1905090509050905090509050905290509050905090509050905090509050905090509050905090" ++
    "5090509050905090509050905090509050905090509050905090509050905090509050905060579050905091" ++
    "50905090509050905060o1905090507090509052905090509050905090509050905090509050905094509450" ++
    "905090509050905090509050905093509050915021905020502050905090509050902k62905070615076c072" ++
    "c073c07ma1c1a0q3c022f5q1n0q0257Bjl327a17Bhafc127l1d925ch75l270l071c0d97rc7l17mcaa12al07s" ++
    "22c2a07Bec0a1c3a1c1a2lc2060d923l174c06078d974207B8c5a1c1a1c12872c077c0a021d921l37f6075q2" ++
    "70a0c0a07Bhc070c271c174c170c0702n7160l17aa0c1a1l17061a0c029752175217528762076205Bao06358" ++
    "60o1235Cf7B2a1c0a1c0a1l0a0c021d9257K%32b7m237Bg234B*v3GHv7Ld217D92B5562b542470c079p07c20" ++
    "74207020712071207Dbog2f7Lai0m0qf7Bv217Bl26q02v7bn0q2cfl6m0i0l025cfl0h1g1m0i0m0i0m0i0m0i0" ++
    "m0i0m0i0m0i0m0i0l1m0i0l3g2l220l3h0m0i0m0i0m0i0l2p0h0p220l0n0l12374207E6211020l2n0l2m0i0l" ++
    "0p0l0h0l1d9l1p2l19pm0l0i0o0g0o05pm0p0i0p0m0i0l0m0i0l179607Bc617u227521752175217222n1p0o0" ++
    "q0n120q0p3q12912q1217b207p207i2071207e217d2B17Dq24l223fBc22q8eBkf3qgf1q220qc22q02BeqBcc0" ++
    "2E17s227Bg2ec0fq237vf3287je077e0247B5c4247t20l07B32377l0e42B99B75B77Cd21d9259B3235B3237B" ++
    "7277Bj2al09a209e20962091205a205e20562051227Bj2b7Jm287l29772n65206B920682C4752170207Bb207" ++
    "12270217m20l0f77mq1f67u27f82Bf7i207124f47lf522l07p24l02Bv7Bn23f171ff21fBd70c220c124c3732" ++
    "072207s21c223c0f826l8267sf1l07sf22v77q07rc123f4l6287Bl22l67l21f77i24f77h26l32bf62Cf7C82B" ++
    "m9Bi2c5Bi26f57B3c327d925d97360709l22c4h0605l27p12Gffu207B920c1h021712f722Bmc37sf970277lc" ++
    "af3l42l7hc3l32B57kf62j7m28a0c0a07Bkcel623fjd9c071c17028c2a07Bca2c3a1c1l110l3c02910217o26" ++
    "d925c27B3c4a0c720d9l370a170277B2c0l17028c1a07Bfa2c8a173l3c3l0a0c0d970l070l220fj2a7h207oa" ++
    "2c2a1c0a0c1l5c071c02Bt7620702073207e2079l0257Bec0a2c724d925c1a120772171217l2076207120742" ++
    "0c170a1c0a321a121a2217025a02474a121c622c42a7920702170207B52070a2c520a021a020a320a1c0a0c0" ++
    "70c070l120l127c12s7Bka2c7a1c2a0c073l4d9l120l0c0722t7Bfa2c5a0c0a3c1a0c171l07027d92F57Bea2" ++
    "c321a3c1a0c1lm73c12B17Bfa2c7a1c0a0c1l2702ad925lc2i7Bac0a0c0a1c5a0c070l025d925dj2r7q21c0a" ++
    "0c0a1c3a0c423d9f1l2q0762Fo7Bba2c8a0c1l02D39v5vd9f82b77217021772071207na520a121c1a0c070a0" ++
    "70a0c0l228d92C577217B6a2c321c1a3c070l070a02q70c97B7c5a070c3l7c02770c5a1c27Bdcca0c1l270l4" ++
    "2c7C826l92Fl7B0l02dd92578207B4a0c620c5a0c070l429d9fi22l17t21cl20a0c6a0c1a0c12C8762071207" ++
    "B5c522c020c120c670c027d925752071207va420c120a1c0a0c07026d92Jl7ic1a1l126c170a07c207B1a1c4" ++
    "22a1c0a0c0lcd9c02Ck702efkq7n3qg2cl07$p2D5eDe20l42a7G32CSb7D0l12c7BBf1fc075ce297D$q247S62" ++
    "GVo7tcba2c2d92BW57Ro267u20d923l17Ce20d9257t21c4l0297Bfc6l4q363l0q029d920f6207k247i2Nf627" ++
    "B761l2d92G59v5vfml32D47Ca23c070aBm26c36c2Bv61l060c02aa12d7F*n277BGl2B8792IX6632066206120" ++
    "7J22e702s7221702d73277Mb2CI37Da247c2278267921q0c1l0132D!rqHfd925qNj2CbcBd21cm28qDj2BrqHl" ++
    "29qB621qBra1c2q2a517c7q1c6qtc3qBs2kqC1c2q02Dpfj2bfj2bqCm28fo2E69p5p9p56205h9p5p902091219" ++
    "02191219320975320502056205a9p5p91209321972096205p912093209420902296205p9p5p9p5p9p5p9p5p9" ++
    "p5p9p5r219op05op0559op05op0559op05op0559op05op0559op05op055905021dBhqPvcBmq3cBhq7c0qdc0q" ++
    "1l42ec420ce2BCf59705j25552Gkc620cg21c620c120c4246Bt2B0c02Df7Bc22c66621d92370q02Jv7tc02g7" ++
    "Bbc3d924n02Of7q60c3d92Gl7tc170d923l02Ov7620732071207e207G421f8c62B89B15B1c66023d923l12Yg" ++
    "fBqq0f2n0f32CbfBcq0fe2G173207q2071207021702079207320702070257023702070207020722071207021" ++
    "70207020702070207020712070217320762073207320702079207g24722074207g2Bjp12IdqBb23qD32bqe21" ++
    "qe20qe20qB429fcqF02Bnqs2cqBb23q826q12dq52EpqHqo4qWn23qg22qc22qDm23qCu25qb23q02eqb23qBn27" ++
    "q925qB727qt21qb23q12BtqKj2bqd21qc22q924qBn26qe21qa25q826qEi20qCrd92BA57BJWv2v7EBp257Gt21" ++
    "7FU12d7HJg2e7Td2CN17Qt2BP17E!a247ECv2VXCg102t1Cv2DvcHf2B*Qf3B**t213B**t21"

def runs (_ : Unit) : List (Category × Nat × Nat) :=
  go 0 (readNumbers runCode)
where
  go (start : Nat) : List Nat → List (Category × Nat × Nat)
    | kind :: length :: rest =>
      (all.getD kind .unassigned, start, start + length) :: go (start + length + 1) rest
    | _ => []

def ranges (kinds : List Category) : Ranges :=
  Ranges.join (((runs ()).filter fun run => kinds.contains run.1).map (·.2))

end Category

end FormatScan.Unicode
