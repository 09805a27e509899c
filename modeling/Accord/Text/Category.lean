import Accord.Text.Split

namespace Accord.Text

/-- Runs of characters of one general category, from the first code point on: the two letters of the
category, then the length of the run in base 36. -/
def categoryText : String := String.join [
  "CcwZs1Po3Sc1Po3Ps1Pe1Po1Sm1Po1Pd1Po2NdaPo2Sm3Po2LuqPs1Po1Pe1Sk1Pc1Sk1LlqPs1Sm1Pe1Sm1CcxZs1Po1",
  "Sc4So1Po1Sk1So1Lo1Pi1Sm1Cf1So1Sk1So1Sm1No2Sk1Ll1Po2Sk1No1Lo1Pf1No3Po1LunSm1Lu7LloSm1Ll8Lu1Ll1",
  "Lu1Ll1Lu1Ll1Lu1Ll1Lu1Ll1Lu1Ll1Lu1Ll1Lu1Ll1Lu1Ll1Lu1Ll1Lu1Ll1Lu1Ll1Lu1Ll1Lu1Ll1Lu1Ll1Lu1Ll1Lu1",
  "Ll1Lu1Ll1Lu1Ll1Lu1Ll1Lu1Ll1Lu1Ll1Lu1Ll1Lu1Ll1Lu1Ll1Lu1Ll1Lu1Ll1Lu1Ll2Lu1Ll1Lu1Ll1Lu1Ll1Lu1Ll1",
  "Lu1Ll1Lu1Ll1Lu1Ll1Lu1Ll2Lu1Ll1Lu1Ll1Lu1Ll1Lu1Ll1Lu1Ll1Lu1Ll1Lu1Ll1Lu1Ll1Lu1Ll1Lu1Ll1Lu1Ll1Lu1",
  "Ll1Lu1Ll1Lu1Ll1Lu1Ll1Lu1Ll1Lu1Ll1Lu1Ll1Lu1Ll1Lu1Ll1Lu1Ll1Lu1Ll1Lu1Ll1Lu2Ll1Lu1Ll1Lu1Ll3Lu2Ll1",
  "Lu1Ll1Lu2Ll1Lu3Ll2Lu4Ll1Lu2Ll1Lu3Ll3Lu2Ll1Lu2Ll1Lu1Ll1Lu1Ll1Lu2Ll1Lu1Ll2Lu1Ll1Lu2Ll1Lu3Ll1Lu1",
  "Ll1Lu2Ll2Lo1Lu1Ll3Lo4Lu1Lt1Ll1Lu1Lt1Ll1Lu1Lt1Ll1Lu1Ll1Lu1Ll1Lu1Ll1Lu1Ll1Lu1Ll1Lu1Ll1Lu1Ll1Lu1",
  "Ll2Lu1Ll1Lu1Ll1Lu1Ll1Lu1Ll1Lu1Ll1Lu1Ll1Lu1Ll1Lu1Ll1Lu1Ll2Lu1Lt1Ll1Lu1Ll1Lu3Ll1Lu1Ll1Lu1Ll1Lu1",
  "Ll1Lu1Ll1Lu1Ll1Lu1Ll1Lu1Ll1Lu1Ll1Lu1Ll1Lu1Ll1Lu1Ll1Lu1Ll1Lu1Ll1Lu1Ll1Lu1Ll1Lu1Ll1Lu1Ll1Lu1Ll1",
  "Lu1Ll1Lu1Ll1Lu1Ll1Lu1Ll1Lu1Ll1Lu1Ll1Lu1Ll1Lu1Ll1Lu1Ll1Lu1Ll1Lu1Ll7Lu2Ll1Lu2Ll2Lu1Ll1Lu4Ll1Lu1",
  "Ll1Lu1Ll1Lu1Ll1Lu1Ll1xLo1LlrLmiSk4LmcSkeLm5Sk7Lm1Sk1Lm1SkhMn34Lu1Ll1Lu1Ll1Lm1Sk1Lu1Ll1Cn2Lm1Ll3",
  "Po1Lu1Cn4Sk2Lu1Po1Lu3Cn1Lu1Cn1Lu2Ll1LuhCn1Lu9LlzLu1Ll2Lu3Ll3Lu1Ll1Lu1Ll1Lu1Ll1Lu1Ll1Lu1Ll1Lu1",
  "Ll1Lu1Ll1Lu1Ll1Lu1Ll1Lu1Ll1Lu1Ll1Lu1Ll5Lu1Ll1Sm1Lu1Ll1Lu2Ll2Lu1fLl1cLu1Ll1Lu1Ll1Lu1Ll1Lu1Ll1Lu1",
  "Ll1Lu1Ll1Lu1Ll1Lu1Ll1Lu1Ll1Lu1Ll1Lu1Ll1Lu1Ll1Lu1Ll1Lu1Ll1Lu1Ll1Lu1Ll1Lu1Ll1So1Mn5Me2Lu1Ll1Lu1",
  "Ll1Lu1Ll1Lu1Ll1Lu1Ll1Lu1Ll1Lu1Ll1Lu1Ll1Lu1Ll1Lu1Ll1Lu1Ll1Lu1Ll1Lu1Ll1Lu1Ll1Lu1Ll1Lu1Ll1Lu1Ll1",
  "Lu1Ll1Lu1Ll1Lu1Ll1Lu1Ll1Lu1Ll1Lu1Ll1Lu1Ll1Lu1Ll1Lu1Ll1Lu1Ll1Lu2Ll1Lu1Ll1Lu1Ll1Lu1Ll1Lu1Ll1Lu1",
  "Ll1Lu1Ll2Lu1Ll1Lu1Ll1Lu1Ll1Lu1Ll1Lu1Ll1Lu1Ll1Lu1Ll1Lu1Ll1Lu1Ll1Lu1Ll1Lu1Ll1Lu1Ll1Lu1Ll1Lu1Ll1",
  "Lu1Ll1Lu1Ll1Lu1Ll1Lu1Ll1Lu1Ll1Lu1Ll1Lu1Ll1Lu1Ll1Lu1Ll1Lu1Ll1Lu1Ll1Lu1Ll1Lu1Ll1Lu1Ll1Lu1Ll1Lu1",
  "Ll1Lu1Ll1Lu1Ll1Lu1Ll1Lu1Ll1Lu1Ll1Lu1Ll1Lu1Ll1Lu1Ll1Lu1Ll1Lu1Ll1Lu1Ll1Lu1Ll1Lu1Ll1Lu1Ll1Lu1Ll1",
  "Lu1Ll1Lu1Ll1Lu1Ll1Cn1Lu12Cn2Lm1Po6Ll15Po1Pd1Cn2So2Sc1Cn1Mn19Pd1Mn1Po1Mn2Po1Mn2Po1Mn1Cn8LorCn4",
  "Lo4Po2CnbCf6Sm3Po2Sc1Po2So2MnbPo1Cf1Po3LowLm1LoaMnlNdaPo4Lo2Mn1Lo2rPo1Lo1Mn7Cf1So1Mn6Lm2Mn2So1",
  "Mn4Lo2NdaLo3So2Lo1PoeCn1Cf1Lo1Mn1LouMnrCn2Lo2hMnbLo1CneNdaLoxMn9Lm2So1Po3Lm1Cn2Mn1Sc2LomMn4Lm1",
  "Mn9Lm1Mn3Lm1Mn5Cn2PofCn1LopMn3Cn2Po1Cn1LobCn5LooSk1Lo6Cn1Cf2Cn5Mn9Lo15Lm1MnoCf1MnwMc1Lo1iMn1Mc1",
  "Mn1Lo1Mc3Mn8Mc4Mn1Mc2Lo1Mn7LoaMn2Po2NdaPo1Lm1LofMn1Mc2Cn1Lo8Cn2Lo2Cn2LomCn1Lo7Cn1Lo1Cn3Lo4Cn2",
  "Mn1Lo1Mc3Mn4Cn2Mc2Cn2Mc2Mn1Lo1Cn8Mc1Cn4Lo2Cn1Lo3Mn2Cn2NdaLo2Sc2No6So1Sc1Lo1Po1Mn1Cn2Mn2Mc1Cn1",
  "Lo6Cn4Lo2Cn2LomCn1Lo7Cn1Lo2Cn1Lo2Cn1Lo2Cn2Mn1Cn1Mc3Mn2Cn4Mn2Cn2Mn3Cn3Mn1Cn7Lo4Cn1Lo1Cn7NdaMn2",
  "Lo3Mn1Po1CnaMn2Mc1Cn1Lo9Cn1Lo3Cn1LomCn1Lo7Cn1Lo2Cn1Lo5Cn2Mn1Lo1Mc3Mn5Cn1Mn2Mc1Cn1Mc2Mn1Cn2Lo1",
  "CnfLo2Mn2Cn2NdaPo1Sc1Cn7Lo1Mn6Cn1Mn1Mc2Cn1Lo8Cn2Lo2Cn2LomCn1Lo7Cn1Lo2Cn1Lo5Cn2Mn1Lo1Mc1Mn1Mc1",
  "Mn4Cn2Mc2Cn2Mc2Mn1Cn7Mn2Mc1Cn4Lo2Cn1Lo3Mn2Cn2NdaSo1Lo1No6CnaMn1Lo1Cn1Lo6Cn3Lo3Cn1Lo4Cn3Lo2Cn1",
  "Lo1Cn1Lo2Cn3Lo2Cn3Lo3Cn3LocCn4Mc2Mn1Mc2Cn3Mc3Cn1Mc3Mn1Cn2Lo1Cn6Mc1CneNdaNo3So6Sc1So1Cn5Mn1Mc3",
  "Mn1Lo8Cn1Lo3Cn1LonCn1LogCn2Mn1Lo1Mn3Mc4Cn1Mn3Cn1Mn4Cn7Mn2Cn1Lo3Cn2Lo1Cn2Lo2Mn2Cn2NdaCn7Po1No7",
  "So1Lo1Mn1Mc2Po1Lo8Cn1Lo3Cn1LonCn1LoaCn1Lo5Cn2Mn1Lo1Mc1Mn1Mc5Cn1Mn1Mc2Cn1Mc2Mn2Cn7Mc2Cn6Lo2Cn1",
  "Lo2Mn2Cn2NdaCn1Lo2Mc1CncMn2Mc2Lo9Cn1Lo3Cn1Lo15Mn2Lo1Mc3Mn4Cn1Mc3Cn1Mc3Mn1Lo1So1Cn4Lo3Mc1No7Lo3",
  "Mn2Cn2NdaNo9So1Lo6Cn1Mn1Mc2Cn1LoiCn3LooCn1Lo9Cn1Lo1Cn2Lo7Cn3Mn1Cn4Mc3Mn3Cn1Mn1Cn1Mc8Cn6NdaCn2",
  "Mc2Po1CncLo1cMn1Lo2Mn7Cn4Sc1Lo6Lm1Mn8Po1NdaPo2Cn11Lo2Cn1Lo1Cn1Lo5Cn1LooCn1Lo1Cn1LoaMn1Lo2Mn9Lo1",
  "Cn2Lo5Cn1Lm1Cn1Mn7Cn1NdaCn2Lo4CnwLo1So3PofSo1Po1So3Mn2So6NdaNoaSo1Mn1So1Mn1So1Mn1Ps1Pe1Ps1Pe1",
  "Mc2Lo8Cn1Lo10Cn4MneMc1Mn5Po1Mn2Lo5MnbCn1Mn10Cn1So8Mn1So6Cn1So2Po5So4Po2Cn11Lo17Mc2Mn4Mc1Mn6Mc1",
  "Mn2Mc2Mn2Lo1NdaPo6Lo6Mc2Mn2Lo4Mn3Lo1Mc3Lo2Mc7Lo3Mn4LodMn1Mc2Mn2Mc6Mn1Lo1Mc1NdaMc3Mn1So2Lu12Cn1",
  "Lu1Cn5Lu1Cn2Ll17Po1Lm1Ll3Lo95Cn1Lo4Cn2Lo7Cn1Lo1Cn1Lo4Cn2Lo15Cn1Lo4Cn2LoxCn1Lo4Cn2Lo7Cn1Lo1Cn1",
  "Lo4Cn2LofCn1Lo1lCn1Lo4Cn2Lo1vCn2Mn3Po9NokCn3LogSoaCn6Lu2eCn2Ll6Cn2Pd1Loh8So1Po1LohZs1LoqPs1Pe1",
  "Cn3Lo23Po3Nl3Lo8Cn7LoiMn3Mc1Cn9LojMn2Mc1Po2Cn9LoiMn2CncLodCn1Lo3Cn1Mn2CncLo1gMn2Mc1Mn7Mc8Mn1Mc2",
  "MnbPo3Lm1Po3Sc1Lo1Mn1Cn2NdaCn6NoaCn6Po6Pd1Po4Mn3Cf1Mn1NdaCn6LozLm1Lo1hCn7Lo5Mn2LoyMn1Lo1Cn5Lo1y",
  "CnaLovCn1Mn3Mc4Mn2Mc3Cn4Mc2Mn1Mc6Mn3Cn4So1Cn3Po2NdaLouCn2Lo5CnbLo18Cn4LoqCn6NdaNo1Cn3SoyLonMn2",
  "Mc2Mn1Cn2Po2Lo1hMc1Mn1Mc1Mn7Cn1Mn1Mc1Mn1Mc2Mn8Mc6MnaCn2Mn1NdaCn6NdaCn6Po7Lm1Po6Cn2MneMe1MngCn1d",
  "Mn4Mc1Lo1bMn1Mc1Mn5Mc1Mn1Mc5Mn1Mc2Lo8Cn1Po2NdaPo7SoaMn9So9Po3Mn2Mc1LouMc1Mn4Mc2Mn2Mc1Mn3Lo2Nda",
  "Lo18Mn1Mc1Mn2Mc3Mn1Mc1Mn3Mc2Cn8Po4Lo10Mc8Mn8Mc2Mn2Cn3Po5NdaCn3Lo3NdaLouLm6Po2Ll9Lu1Ll1Cn5Lu17",
  "Cn2Lu3Po8Cn8Mn3Po1MndMc1Mn7Lo4Mn1Lo6Mn1Lo2Mc1Mn2Lo1Cn5Ll18Lm1rLldLm1LlyLm11Mn1sLu1Ll1Lu1Ll1Lu1",
  "Ll1Lu1Ll1Lu1Ll1Lu1Ll1Lu1Ll1Lu1Ll1Lu1Ll1Lu1Ll1Lu1Ll1Lu1Ll1Lu1Ll1Lu1Ll1Lu1Ll1Lu1Ll1Lu1Ll1Lu1Ll1",
  "Lu1Ll1Lu1Ll1Lu1Ll1Lu1Ll1Lu1Ll1Lu1Ll1Lu1Ll1Lu1Ll1Lu1Ll1Lu1Ll1Lu1Ll1Lu1Ll1Lu1Ll1Lu1Ll1Lu1Ll1Lu1",
  "Ll1Lu1Ll1Lu1Ll1Lu1Ll1Lu1Ll1Lu1Ll1Lu1Ll1Lu1Ll1Lu1Ll1Lu1Ll1Lu1Ll1Lu1Ll1Lu1Ll1Lu1Ll1Lu1Ll1Lu1Ll1",
  "Lu1Ll1Lu1Ll1Lu1Ll1Lu1Ll1Lu1Ll1Lu1Ll1Lu1Ll1Lu1Ll1Lu1Ll1Lu1Ll1Lu1Ll1Lu1Ll1Lu1Ll1Lu1Ll1Lu1Ll1Lu1",
  "Ll1Lu1Ll1Lu1Ll1Lu1Ll1Lu1Ll1Lu1Ll1Lu1Ll1Lu1Ll1Lu1Ll1Lu1Ll1Lu1Ll9Lu1Ll1Lu1Ll1Lu1Ll1Lu1Ll1Lu1Ll1",
  "Lu1Ll1Lu1Ll1Lu1Ll1Lu1Ll1Lu1Ll1Lu1Ll1Lu1Ll1Lu1Ll1Lu1Ll1Lu1Ll1Lu1Ll1Lu1Ll1Lu1Ll1Lu1Ll1Lu1Ll1Lu1",
  "Ll1Lu1Ll1Lu1Ll1Lu1Ll1Lu1Ll1Lu1Ll1Lu1Ll1Lu1Ll1Lu1Ll1Lu1Ll1Lu1Ll1Lu1Ll1Lu1Ll1Lu1Ll1Lu1Ll1Lu1Ll1",
  "Lu1Ll1Lu1Ll1Lu1Ll1Lu1Ll1Lu1Ll1Lu1Ll1Lu1Ll1Lu1Ll1Lu1Ll1Lu1Ll1Lu1Ll1Lu1Ll1Lu1Ll9Lu8Ll6Cn2Lu6Cn2",
  "Ll8Lu8Ll8Lu8Ll6Cn2Lu6Cn2Ll8Cn1Lu1Cn1Lu1Cn1Lu1Cn1Lu1Ll8Lu8LleCn2Ll8Lt8Ll8Lt8Ll8Lt8Ll5Cn1Ll2Lu4",
  "Lt1Sk1Ll1Sk3Ll3Cn1Ll2Lu4Lt1Sk3Ll4Cn2Ll2Lu4Cn1Sk3Ll8Lu5Sk3Cn2Ll3Cn1Ll2Lu4Lt1Sk2Cn1ZsbCf5Pd6Po2",
  "Pi1Pf1Ps1Pi2Pf1Ps1Pi1Po8Zl1Zp1Cf5Zs1Po9Pi1Pf1Po4Pc2Po3Sm1Ps1Pe1PobSm1Po1Pc1PoaZs1Cf5Cn1CfaNo1",
  "Lm1Cn2No6Sm3Ps1Pe1Lm1NoaSm3Ps1Pe1Cn1LmdCn3ScxCnfMndMe4Mn1Me3MncCnfSo2Lu1So4Lu1So2Ll1Lu3Ll2Lu3",
  "Ll1So1Lu1So2Sm1Lu5So6Lu1So1Lu1So1Lu1So1Lu4So1Ll1Lu4Ll1Lo4Ll1So2Ll2Lu2Sm5Lu1Ll4So1Sm1So2Ll1So1",
  "NogNlzLu1Ll1Nl4No1So2Cn4Sm5So5Sm2So4Sm1So2Sm1So2Sm1So7Sm1SovSm2So2Sm1So1Sm1SovSm7gSo8Ps1Pe1Ps1",
  "Pe1SokSm2So7Ps1Pe1So29Sm1SouSmpSo14Sm6So20CnmSobCnlNo1oSo26NomSo53Sm1So9Sm1So1iSm8So33Sm1So6w",
  "Ps1Pe1Ps1Pe1Ps1Pe1Ps1Pe1Ps1Pe1Ps1Pe1Ps1Pe1NouSo18Sm5Ps1Pe1SmvPs1Pe1Ps1Pe1Ps1Pe1Ps1Pe1Ps1Pe1Smg",
  "So74Sm3nPs1Pe1Ps1Pe1Ps1Pe1Ps1Pe1Ps1Pe1Ps1Pe1Ps1Pe1Ps1Pe1Ps1Pe1Ps1Pe1Ps1Pe1Sm1rPs1Pe1Ps1Pe1Smw",
  "Ps1Pe1Sm76So1cSmlSo2Sm6So13Cn2SowCn1So2xLu1cLl1cLu1Ll1Lu3Ll2Lu1Ll1Lu1Ll1Lu1Ll1Lu4Ll1Lu1Ll2Lu1",
  "Ll6Lm2Lu3Ll1Lu1Ll1Lu1Ll1Lu1Ll1Lu1Ll1Lu1Ll1Lu1Ll1Lu1Ll1Lu1Ll1Lu1Ll1Lu1Ll1Lu1Ll1Lu1Ll1Lu1Ll1Lu1",
  "Ll1Lu1Ll1Lu1Ll1Lu1Ll1Lu1Ll1Lu1Ll1Lu1Ll1Lu1Ll1Lu1Ll1Lu1Ll1Lu1Ll1Lu1Ll1Lu1Ll1Lu1Ll1Lu1Ll1Lu1Ll1",
  "Lu1Ll1Lu1Ll1Lu1Ll1Lu1Ll1Lu1Ll1Lu1Ll1Lu1Ll1Lu1Ll1Lu1Ll1Lu1Ll1Lu1Ll1Lu1Ll1Lu1Ll1Lu1Ll1Lu1Ll1Lu1",
  "Ll1Lu1Ll1Lu1Ll1Lu1Ll1Lu1Ll2So6Lu1Ll1Lu1Ll1Mn3Lu1Ll1Cn5Po4No1Po2Ll12Cn1Ll1Cn5Ll1Cn2Lo1kCn7Lm1Po1",
  "CneMn1LonCn9Lo7Cn1Lo7Cn1Lo7Cn1Lo7Cn1Lo7Cn1Lo7Cn1Lo7Cn1Lo7Cn1MnwPo2Pi1Pf1Pi1Pf1Po3Pi1Pf1Po1Pi1",
  "Pf1Po9Pd1Po2Pd1Po1Pi1Pf1Po2Pi1Pf1Ps1Pe1Ps1Pe1Ps1Pe1Ps1Pe1Po5Lm1PoaPd2Po4Pd1Po1Ps1PodSo2Po3Ps1",
  "Pe1Ps1Pe1Ps1Pe1Ps1Pe1Pd1CnySoqCn1So2hCncSo5yCnqSogZs1Po3So1Lm1Lo1Nl1Ps1Pe1Ps1Pe1Ps1Pe1Ps1Pe1Ps1",
  "Pe1So2Ps1Pe1Ps1Pe1Ps1Pe1Ps1Pe1Pd1Ps1Pe2So1Nl9Mn4Mc2Pd1Lm5So2Nl3Lm1Lo1Po1So2Cn1Lo2eCn2Mn2Sk2Lm2",
  "Lo1Pd1Lo2iPo1Lm3Lo1Cn5Lo17Cn1Lo2mCn1So2No4SoaLowSo12Cn9So1LogSovCn1NoaSouNo8So1NofSowNoaSo13Nof",
  "So8wLo534So1sLog7pLm1LovrCn3So1jCn9Lo14Lm6Po2Lo7gLm1Po3LogNdaLo2CnkLu1Ll1Lu1Ll1Lu1Ll1Lu1Ll1Lu1",
  "Ll1Lu1Ll1Lu1Ll1Lu1Ll1Lu1Ll1Lu1Ll1Lu1Ll1Lu1Ll1Lu1Ll1Lu1Ll1Lu1Ll1Lu1Ll1Lu1Ll1Lu1Ll1Lu1Ll1Lu1Ll1",
  "Lu1Ll1Lu1Ll1Lu1Ll1Lo1Mn1Me3Po1MnaPo1Lm1Lu1Ll1Lu1Ll1Lu1Ll1Lu1Ll1Lu1Ll1Lu1Ll1Lu1Ll1Lu1Ll1Lu1Ll1",
  "Lu1Ll1Lu1Ll1Lu1Ll1Lu1Ll1Lu1Ll1Lm2Mn2Lo1yNlaMn2Po6Cn8SknLm9Sk2Lu1Ll1Lu1Ll1Lu1Ll1Lu1Ll1Lu1Ll1Lu1",
  "Ll1Lu1Ll3Lu1Ll1Lu1Ll1Lu1Ll1Lu1Ll1Lu1Ll1Lu1Ll1Lu1Ll1Lu1Ll1Lu1Ll1Lu1Ll1Lu1Ll1Lu1Ll1Lu1Ll1Lu1Ll1",
  "Lu1Ll1Lu1Ll1Lu1Ll1Lu1Ll1Lu1Ll1Lu1Ll1Lu1Ll1Lu1Ll1Lu1Ll1Lu1Ll1Lu1Ll1Lu1Ll1Lu1Ll1Lu1Ll1Lu1Ll1Lu1",
  "Ll1Lu1Ll1Lm1Ll8Lu1Ll1Lu1Ll1Lu2Ll1Lu1Ll1Lu1Ll1Lu1Ll1Lu1Ll1Lm1Sk2Lu1Ll1Lu1Ll1Lo1Lu1Ll1Lu1Ll3Lu1",
  "Ll1Lu1Ll1Lu1Ll1Lu1Ll1Lu1Ll1Lu1Ll1Lu1Ll1Lu1Ll1Lu1Ll1Lu1Ll1Lu5Ll1Lu5Ll1Lu1Ll1Lu1Ll1Lu1Ll1Lu1Ll1",
  "Lu1Ll1Lu1Ll1Lu1Ll1Lu4Ll1Lu1Ll1Lu2Ll1Cn2Lu1Ll1Cn1Ll1Cn1Ll1Lu1Ll1Lu1Ll1Lu1Ll1Lu1CnlLm3Lu1Ll1Lo1",
  "Lm2Ll1Lo7Mn1Lo3Mn1Lo4Mn1LonMc2Mn2Mc1So4Mn1Cn3No6So2Sc1So1Cn6Lo1gPo4Cn8Mc2Lo1eMcgMn2Cn8Po2NdaCn6",
  "MniLo6Po3Lo1Po1Lo2Mn1NdaLosMn8Po2LonMnbMc2CnbPo1LotCn3Mn3Mc1Lo1bMn1Mc2Mn4Mc2Mn2Mc3PodCn1Lm1Nda",
  "Cn4Po2Lo5Mn1Lm1Lo9NdaLo5Cn1Lo15Mn6Mc2Mn2Mc2Mn2Cn9Lo3Mn1Lo8Mn1Mc1Cn2NdaCn2Po4LogLm1Lo6So3Lo1Mc1",
  "Mn1Mc1Lo1eMn1Lo1Mn3Lo2Mn2Lo5Mn2Lo1Mn1Lo1CnoLo2Lm1Po2LobMc1Mn2Mc2Po2Lo1Lm2Mc1Mn1CnaLo6Cn2Lo6Cn2",
  "Lo6Cn9Lo7Cn1Lo7Cn1Ll17Sk1Lm4Ll9Lm1Sk2Cn4Ll28LozMc2Mn1Mc2Mn1Mc2Po1Mc1Mn1Cn2NdaCn6Lo8mcCncLonCn4",
  "Lo1dCn4Cs1kwCo4xsLoa6Cn2Lo2yCn12Ll7CncLl5Cn5Lo1Mn1LoaSm1LodCn1Lo5Cn1Lo1Cn1Lo2Cn1Lo2Cn1Lo30Skh",
  "CngLoa3Pe1Ps1SogLo1sCn2Lo1iCn7So1CnwLocSc1So3MngPo7Ps1Pe1Po1Cn6MngPo1Pd2Pc2Ps1Pe1Ps1Pe1Ps1Pe1",
  "Ps1Pe1Ps1Pe1Ps1Pe1Ps1Pe1Ps1Pe1Po2Ps1Pe1Po4Pc3Po3Cn1Po4Pd1Ps1Pe1Ps1Pe1Ps1Pe1Po3Sm1Pd1Sm3Cn1Po1",
  "Sc1Po2Cn4Lo5Cn1Lo3rCn2Cf1Cn1Po3Sc1Po3Ps1Pe1Po1Sm1Po1Pd1Po2NdaPo2Sm3Po2LuqPs1Po1Pe1Sk1Pc1Sk1Llq",
  "Ps1Sm1Pe1Sm1Ps1Pe1Po1Ps1Pe1Po2LoaLm1Lo19Lm2LovCn3Lo6Cn2Lo6Cn2Lo6Cn2Lo3Cn3Sc2Sm1Sk1So1Sc2Cn1So1",
  "Sm4So2CnaCf3So2Cn2LocCn1LoqCn1LojCn1Lo2Cn1LofCn2LoeCnyLo3fCn5Po3Cn4No19Cn3So9Nl1hNo4SohNo2So3",
  "Cn1SodCn3So1Cn1bSo19Mn1Cn3mLotCn3Lo1dCnfMn1NorCn4LowNo4Cn9LokNl1Lo8Nl1Cn5Lo12Mn5Cn5LouCn1Po1",
  "Lo10Cn4Lo8Po1Nl5Cn16Lu14Ll14Lo26Cn2NdaCn6Lu10Cn4Ll10Cn4Lo14Cn8Lo1gCnbPo1LubCn1LufCn1Lu7Cn1Lu2",
  "Cn1LlbCn1LlfCn1Ll7Cn1Ll2Cn3Lo1gCncLo8nCn9LomCnaLo8CnoLm6Cn1Lm16Cn1Lm9Cn1xLo6Cn2Lo1Cn1Lo18Cn1Lo2",
  "Cn3Lo1Cn2LonCn1Po1No8LonSo2No7LovCn8No9Cn1cLojCn1Lo2Cn5No5LomNo6Cn3Po1LoqCn5Po1Cn1sLo1kCn4No2",
  "Lo2NogCn2No1aLo1Mn3Cn1Mn2Cn5Mn4Lo4Cn1Lo3Cn1LotCn2Mn3Cn4Mn1No9Cn7Po9Cn7LotNo2Po1LotNo3CnwLo8So1",
  "LosMn2Cn4No5Po7Cn9Lo1iCn3Po7LomCn2No8LojCn5No8LoiCn7Po4CncNo7Cn28Lo21Cn1jLu1fCndLl1fCn7No6Lo10",
  "Mn4Cn8NdaCn6NdaLo4Lm1Lo1LumCn3Mn5Pd1Lm1LlmCn8Sm2Cn5sNovCn1Lo16Cn1Mn2Pd1Cn2Lo2CngLo3Cn1jMn4Lot",
  "NoaLo1Cn8LomMnbNo4Po5CnmLoiMn4Po4Cn12LolNo7CnkLonCn9Mc1Mn1Mc1Lo1hMnfPo7Cn4NokNdaMn1Lo2Mn2Lo1Cn9",
  "Mn3Mc1Lo19Mc3Mn4Mc2Mn2Po2Cf1Po4Mn1CnaCf1Cn2LopCn7NdaCn6Mn3Lo10Mn5Mc1Mn8Cn1NdaPo4Lo1Mc2Lo1Cn8Loz",
  "Mn1Po2Lo1Cn9Mn2Mc1Lo1cMc3Mn9Mc2Lo4Po4Mn4Po1Mc1Mn1NdaLo1Po1Lo1Po3Cn1NokCnbLoiCn1LopMc3Mn3Mc2Mn1",
  "Mc1Mn2Po6Mn1Lo2Mn1Cn1qLo7Cn1Lo1Cn1Lo4Cn1LofCn1LoaPo1Cn6Lo1bMn1Mc3Mn8Cn5NdaCn6Mn2Mc2Cn1Lo8Cn2Lo2",
  "Cn2LomCn1Lo7Cn1Lo2Cn1Lo5Cn1Mn2Lo1Mc2Mn1Mc4Cn2Mc2Cn2Mc3Cn2Lo1Cn6Mc1Cn5Lo5Mc2Cn2Mn7Cn3Mn5CnbLoa",
  "Cn1Lo1Cn2Lo1Cn1Lo12Cn1Lo1Mc3Mn6Cn1Mc1Cn2Mc1Cn1Mc4Cn1Mc2Mn1Mc1Mn1Lo1Mn1Lo1Po2Cn1Po2Cn8Mn2CntLo1h",
  "Mc3Mn8Mc2Mn3Mc1Mn1Lo4Po5NdaPo2Cn1Po1Mn1Lo3CnuLo1cMc3Mn6Mc1Mn1Mc4Mn2Mc1Mn2Lo2Po1Lo1Cn8NdaCn4m",
  "Lo1bMc3Mn4Cn2Mc4Mn2Mc1Mn2PonLo4Mn2CnyLo1cMc3Mn8Mc2Mn1Mc1Mn2Po3Lo1CnbNdaCn6PodCnjLo17Mn1Mc1Mn1",
  "Mc2Mn6Mc1Mn1Lo1Po1Cn6NdaCn6NdkCnsLorCn2Mn1Mc1Mn1Mc2Mn4Mc1Mn5Cn4NdaNo2Po3So1Lo7Cn55Lo18Mc3Mn9Mc1",
  "Mn2Po1Cn2sLuwLlwNdaNo9CncLo8Cn2Lo1Cn2Lo8Cn1Lo2Cn1LooMc6Cn1Mc2Cn2Mn2Mc1Mn1Lo1Mc1Lo1Mc1Mn1Po3Cn9",
  "NdaCn1yLo8Cn2Lo13Mc3Mn4Cn2Mn2Mc4Mn1Lo1Po1Lo1Mc1CnrLo1MnaLo14Mn6Mc1Lo1Mn4Po8Mn1Cn8Lo1Mn6Mc2Mn3",
  "Lo1aMndMc1Mn2Po3Lo1Po5CndLo21Cn7PoaCn52LoxPo1CneNdaCn6Lo9Cn1Lo11Mc1Mn7Cn1Mn6Mc1Mn1Lo1Po5CnaNda",
  "NojCn3Po2LouCn2MnmCn1Mc1Mn7Mc1Mn2Mc1Mn2Cn21Lo7Cn1Lo2Cn1Lo12Mn6Cn3Mn1Cn1Mn2Cn1Mn7Lo1Mn1Cn8NdaCn6",
  "Lo6Cn1Lo2Cn1LowMc5Cn1Mn2Cn1Mc2Mn1Mc1Mn1Lo1Cn7NdaCn8mLojMn2Mc2Po2Cn7Mn2Lo1Mc1LodCn1LoyMc2Mn5Cn3",
  "Mc2Mn1Mc1Mn1PodNdaMn1Cn2dLo1CnfNolSo8Sc4SohCndPo1LopmCn2uNl33Cn1Po5CnbLo5gCn218Lo2pPo2CndLots",
  "CfgMn1Lo6MnfCnaLo32zCn5Log7Cn5a1LouMncMc3Mn3NdaCn1c6LoftCn7LovCn1NdaCn4Po2Lo27Cn1NdaCn6LouCn2",
  "Mn5Po1CnaLo1cMn7Po5So4Lm4Po1So1CnaNdaCn1No7Cn1LolCn5LojCnc0Lm3Lo14Lm2Po3NdaCn5iLuwLlwNonPo4Cn2t",
  "Lo23Cn4Mn1Lo1Mc1jCn7Mn4LmdCn1sLm2Po1Lm1Mn1CnbMc2CneLo4qgCn8LoyeCn15LoaCn6w7Lm4Cn1Lm7Cn1Lm2Cn1",
  "Lo83CnfLo1CntLo3Cn2Lo1CneLo4Cn8Lob0Cn1s4Lo2zCn5LodCn3Lo9Cn7LoaCn2So1Mn2Po1Cf4Cn318So6oNdaCn6",
  "Soc4Cn24Mn1aCn2MnnCn9So38Cn1oSo6uCnaSo13Cn2So1oMc2Mn3So3Mc6Cf8Mn8So2Mn7SouMn4So1pCnlSo1uMn3So1",
  "Cn3eNokCncNokCncSo2fCn9NopCn3rLuqLlqLuqLl7Cn1LliLuqLlqLu1Cn1Lu2Cn2Lu1Cn2Lu2Cn2Lu4Cn1Lu8Ll4Cn1",
  "Ll1Cn1Ll7Cn1LlbLuqLlqLu2Cn1Lu4Cn2Lu8Cn1Lu7Cn1LlqLu2Cn1Lu4Cn1Lu5Cn1Lu1Cn3Lu7Cn1LlqLuqLlqLuqLlq",
  "LuqLlqLuqLlqLuqLlqLuqLlsCn2LupSm1LlpSm1Ll6LupSm1LlpSm1Ll6LupSm1LlpSm1Ll6LupSm1LlpSm1Ll6LupSm1",
  "LlpSm1Ll6Lu1Ll1Cn2Nd1eSoe8Mn1jSo4Mn1eSo8Mn1SoeMn1So2Po5CnfMn5Cn1MnfCnuoLlaLo1LlkCn6Ll6Cn5xMn7",
  "Cn1MnhCn2Mn7Cn1Mn2Cn1Mn5Cn5Lm1qCnxMn1Cn34Lo19Cn3Mn7Lm7Cn2NdaCn4Lo1So1Cn8wLouMn1CnhLo18Mn4NdaCn5",
  "Sc1CncwLorLm1Mn4NdaCn5yLouMn2Lo1NdaCn4Po1CndcLo7Cn1Lo4Cn1Lo2Cn1LofCn1Lo5hCn2No9Mn7Cn15LuyLlyMn7",
  "Lm1Cn4NdaCn4Po2CnltNo1nSo1No3Sc1No4Cn24No19So1NofCn5eLo4Cn1LorCn1Lo2Cn1Lo1Cn2Lo1Cn1LoaCn1Lo4Cn1",
  "Lo1Cn1Lo1Cn6Lo1Cn4Lo1Cn1Lo1Cn1Lo1Cn1Lo3Cn1Lo2Cn1Lo1Cn2Lo1Cn1Lo1Cn1Lo1Cn1Lo1Cn1Lo1Cn1Lo2Cn1Lo1",
  "Cn2Lo4Cn1Lo7Cn1Lo4Cn1Lo4Cn1Lo1Cn1LoaCn1LohCn5Lo3Cn1Lo5Cn1LohCn1gSm2Cn7iSo18Cn4So2sCncSofCn2Sof",
  "Cn1SofCn1So11CnaNodSo4hCn1kSotCndSo18Cn4So9Cn7So2CneSo6Cn4aSo6zSk5Sok8Cn4SohCn3SodCn3So3bCn4",
  "So2nCn6SocCn4So1CnfSocCn4So1kCn8SoaCn6So14Cn8SouCn2SocCn4So2Cn1qSo9gCncSoeCn2SodCn3SoaCn5So1k",
  "Cn7SofCn2SobCn6So9Cn7So43Cn1So2kNdaCnsmLowyoCnwLo37eCn6Lo66Cn2Lo4g2CneLo5rlCnfLohaCn1wiLof2",
  "Cn15uLo3t7Cn5Lo38gCnf975Cf1CnuCf2oCn3kMn6oCn1e6oCo1ekeCn2Co1ekeCn2"]

def digit36 (c : Char) : Nat := if c.isDigit then c.toNat - 48 else c.toNat - 87

/-- Reads runs that follow one another: what each is, and one past its last code point. -/
def readPartition (label : List Char) (length start : Nat) : List Char → List (String × Nat)
  | [] => [(String.ofList label, start + length)]
  | c :: rest =>
    if c.isUpper then
      let next := readPartition [c] 0 (start + length) rest
      if label.isEmpty then next else (String.ofList label, start + length) :: next
    else if label.length < 2 then readPartition (label ++ [c]) length start rest
    else readPartition label (length * 36 + digit36 c) start rest

def labelIn (partition : List (String × Nat)) (c : Char) : Option String :=
  (partition.find? fun (_, stop) => c.toNat < stop).map (·.1)

def categoryRuns : List (String × Nat) := readPartition [] 0 0 categoryText.toList

/-- The general category: two letters, the first of which is the group. -/
def categoryOf (c : Char) : String := (labelIn categoryRuns c).getD "Cn"

/-- The first and the last code points of runs, which are given by distances and lengths. -/
def placeRuns (start : Nat) : List Nat → List (Nat × Nat)
  | distance :: length :: rest =>
    (start + distance, start + distance + length - 1) :: placeRuns (start + distance + length) rest
  | _ => []

def readNumbers (text : String) : List Nat :=
  (splitChars ' ' text.toList).map fun digits => digits.foldl (fun n c => n * 36 + digit36 c) 0

def readRuns (text : String) : List (Nat × Nat) := placeRuns 0 (readNumbers text)

def inRuns (runs : List (Nat × Nat)) (c : Char) : Bool :=
  runs.any fun (first, last) => first ≤ c.toNat && c.toNat ≤ last

def otherAlphabetic : List (Nat × Nat) := readRuns <| String.join [
  "n9 1 t d g0 e 1 1 1 2 1 2 1 1 20 b 1c d 1 7 g 1 2t 7 4 4 2 2 4 1 z 1 u g 2u b 2t 2 3 9 1 3 1 4 ",
  "2y 1 1o c 3 7 6 k 1i 2 2 f 1 2 5 3 a 2 t 3 1m 7 2 2 2 2 a 1 a 2 t 3 1m 5 4 2 2 2 4 1 u 2 3 1 ",
  "b 3 1m 8 1 3 1 2 l 2 m 3 4 3 1m 7 2 2 2 2 9 2 a 2 u 1 1n 5 3 3 1 3 a 1 14 5 1l 7 1 3 1 3 8 2 ",
  "b 2 t 3 1m 7 1 3 1 3 8 2 b 2 f 1 c 4 1m 7 1 3 1 3 a 1 a 2 t 3 23 6 1 1 1 8 i 2 1p 1 2 7 i 1 ",
  "2r 1 2 6 1 2 g 1 4j j 9 b 1 10 32 c 1 1 2 4 n 4 4 3 1 3 2 7 3 4 d c 1 1 a 4 19w 2 u 2 u 2 u 2 ",
  "1u j 58 2 y 1 3a c 4 9 66 5 1l a 2 k 22 2 b 3 1d 5 1c f 1o 3 u 9 2 2 1l b 1e j bg y 1c1 1g ",
  "1rq w nsk 8 y 2 9u 1 8 1 n 5 2g 2 1e g 1 1 1l 1 12 5 s c 19 4 1c c 11 1 1v e c 1 8 2 19 3 1e 1 ",
  "1 3 2 2 5 1 18 5 5 1 6l 8 fn7 1 1nb 5 1ae 3 1 2 5 4 lw 4 1t 1 8x 2 27 1 77 3 1h e 19 2 b 3 ",
  "19 9 9 1 1p 3 10 c i 2 1l 3 1c d e 2 2k 9 2 1 6 1 2 1 4d a n 4 1m 7 2 2 2 2 a 1 a 2 2c 9 1 1 ",
  "2 1 1 4 1 2 2v d 1 3 2y i 6l 7 2 7 t 2 2a f 1 1 2y b 2v e 75 d 6v 6 1 2 2 2 3 1 1 1 3y 7 2 6 ",
  "4 1 s a 16 5 1 4 i b 1a e bb 8 1 7 2b m 1 e 3e 6 3 1 1 2 1 3 1 1 3 1 1u 5 1 2 1 4 9o 4 9 2 1 1 ",
  "1c 7 3 3 d0d h 2sg 1 1 1j 7 4 2l 2 f58 1 6zl 7 1 h 2 7 1 2 1 5 2s 1 1pz 1 1k8 q 6 q 6 q"]

def otherLowercase : List (Nat × Nat) :=
  [(0xAA, 0xAA), (0xBA, 0xBA), (0x2B0, 0x2B8), (0x2C0, 0x2C1), (0x2E0, 0x2E4), (0x345, 0x345),
    (0x37A, 0x37A), (0x10FC, 0x10FC), (0x1D2C, 0x1D6A), (0x1D78, 0x1D78), (0x1D9B, 0x1DBF),
    (0x2071, 0x2071), (0x207F, 0x207F), (0x2090, 0x209C), (0x2170, 0x217F), (0x24D0, 0x24E9),
    (0x2C7C, 0x2C7D), (0xA69C, 0xA69D), (0xA770, 0xA770), (0xA7F2, 0xA7F4), (0xA7F8, 0xA7F9),
    (0xAB5C, 0xAB5F), (0xAB69, 0xAB69), (0x10780, 0x10780), (0x10783, 0x10785), (0x10787, 0x107B0),
    (0x107B2, 0x107BA), (0x1E030, 0x1E06D)]

def otherUppercase : List (Nat × Nat) :=
  [(0x2160, 0x216F), (0x24B6, 0x24CF), (0x1F130, 0x1F149), (0x1F150, 0x1F169), (0x1F170, 0x1F189)]

def wordMarks : List (Nat × Nat) :=
  [(0x27, 0x27), (0x2E, 0x2E), (0x3A, 0x3A), (0xB7, 0xB7), (0x387, 0x387), (0x55F, 0x55F),
    (0x5F4, 0x5F4), (0x2018, 0x2019), (0x2024, 0x2024), (0x2027, 0x2027), (0xFE13, 0xFE13),
    (0xFE52, 0xFE52), (0xFE55, 0xFE55), (0xFF07, 0xFF07), (0xFF0E, 0xFF0E), (0xFF1A, 0xFF1A)]

def otherGraphemeExtend : List (Nat × Nat) :=
  [(0x9BE, 0x9BE), (0x9D7, 0x9D7), (0xB3E, 0xB3E), (0xB57, 0xB57), (0xBBE, 0xBBE), (0xBD7, 0xBD7),
    (0xCC0, 0xCC0), (0xCC2, 0xCC2), (0xCC7, 0xCC8), (0xCCA, 0xCCB), (0xCD5, 0xCD6), (0xD3E, 0xD3E),
    (0xD57, 0xD57), (0xDCF, 0xDCF), (0xDDF, 0xDDF), (0x1715, 0x1715), (0x1734, 0x1734),
    (0x1B35, 0x1B35), (0x1B3B, 0x1B3B), (0x1B3D, 0x1B3D), (0x1B43, 0x1B44), (0x1BAA, 0x1BAA),
    (0x1BF2, 0x1BF3), (0x200C, 0x200C), (0x302E, 0x302F), (0xA953, 0xA953), (0xA9C0, 0xA9C0),
    (0xFF9E, 0xFF9F), (0x111C0, 0x111C0), (0x11235, 0x11235), (0x1133E, 0x1133E),
    (0x1134D, 0x1134D), (0x11357, 0x11357), (0x113B8, 0x113B8), (0x113C2, 0x113C2),
    (0x113C5, 0x113C5), (0x113C7, 0x113C9), (0x113CF, 0x113CF), (0x114B0, 0x114B0),
    (0x114BD, 0x114BD), (0x115AF, 0x115AF), (0x116B6, 0x116B6), (0x11930, 0x11930),
    (0x1193D, 0x1193D), (0x11F41, 0x11F41), (0x16FF0, 0x16FF1), (0x1D165, 0x1D166),
    (0x1D16D, 0x1D172), (0xE0020, 0xE007F)]

def isAlphabetic (c : Char) : Bool :=
  if c.toNat < 128 then c.isAlpha
  else (categoryOf c).startsWith "L" || categoryOf c == "Nl" || inRuns otherAlphabetic c

def isLowercase (c : Char) : Bool := categoryOf c == "Ll" || inRuns otherLowercase c

def isUppercase (c : Char) : Bool := categoryOf c == "Lu" || inRuns otherUppercase c

def isCased (c : Char) : Bool := isLowercase c || isUppercase c || categoryOf c == "Lt"

def isCaseIgnorable (c : Char) : Bool :=
  ["Mn", "Me", "Cf", "Lm", "Sk"].contains (categoryOf c) || inRuns wordMarks c

def isGraphemeExtend (c : Char) : Bool :=
  ["Mn", "Me"].contains (categoryOf c) || inRuns otherGraphemeExtend c

/-- Letters, marks, decimal digits, connectors and joiners. -/
def isWord (c : Char) : Bool :=
  if c.toNat < 128 then c.isAlphanum || c == '_'
  else isAlphabetic c || (categoryOf c).startsWith "M" || categoryOf c == "Nd" ||
    categoryOf c == "Pc" || c.toNat == 0x200C || c.toNat == 0x200D

def isAlphanumeric (c : Char) : Bool :=
  if c.toNat < 128 then c.isAlphanum else isAlphabetic c || (categoryOf c).startsWith "N"

def isDecimalDigit (c : Char) : Bool :=
  if c.toNat < 128 then c.isDigit else categoryOf c == "Nd"

end Accord.Text
