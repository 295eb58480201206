import Microbench.Pattern.Runs

/-!
# General categories

The general category of every code point, and the names of categories and of groups of them.
-/

namespace Microbench.Category

/-- The categories of all code points, run by run. -/
def table : List String :=
  ["Cc32ZsPo3ScPo3PsPePoSmPoPdPo2Nd10Po2Sm3Po2Lu26PsPoPeSkPcSkLl26PsSmPeSmCc33ZsPoSc4SoPoSkSoLoP",
    "iSmCfSoSkSoSmNo2SkLlPo2SkNoLoPfNo3PoLu23SmLu7Ll24SmLl8LuLlLuLlLuLlLuLlLuLlLuLlLuLlLuLlLuLlLu",
    "LlLuLlLuLlLuLlLuLlLuLlLuLlLuLlLuLlLuLlLuLlLuLlLuLlLuLlLuLlLuLlLuLlLuLlLuLl2LuLlLuLlLuLlLuLlL",
    "uLlLuLlLuLlLuLl2LuLlLuLlLuLlLuLlLuLlLuLlLuLlLuLlLuLlLuLlLuLlLuLlLuLlLuLlLuLlLuLlLuLlLuLlLuLl",
    "LuLlLuLlLuLlLuLlLu2LlLuLlLuLl3Lu2LlLuLlLu2LlLu3Ll2Lu4LlLu2LlLu3Ll3Lu2LlLu2LlLuLlLuLlLu2LlLuL",
    "l2LuLlLu2LlLu3LlLuLlLu2Ll2LoLuLl3Lo4LuLtLlLuLtLlLuLtLlLuLlLuLlLuLlLuLlLuLlLuLlLuLlLuLl2LuLlL",
    "uLlLuLlLuLlLuLlLuLlLuLlLuLlLuLl2LuLtLlLuLlLu3LlLuLlLuLlLuLlLuLlLuLlLuLlLuLlLuLlLuLlLuLlLuLlL",
    "uLlLuLlLuLlLuLlLuLlLuLlLuLlLuLlLuLlLuLlLuLlLuLlLuLlLuLlLuLlLuLlLuLlLuLl7Lu2LlLu2Ll2LuLlLu4Ll",
    "LuLlLuLlLuLlLuLl69LoLl27Lm18Sk4Lm12Sk14Lm5Sk7LmSkLmSk17Mn112LuLlLuLlLmSkLuLlCn2LmLl3PoLuCn4S",
    "k2LuPoLu3CnLuCnLu2LlLu17CnLu9Ll35LuLl2Lu3Ll3LuLlLuLlLuLlLuLlLuLlLuLlLuLlLuLlLuLlLuLlLuLlLuLl",
    "5LuLlSmLuLlLu2Ll2Lu51Ll48LuLlLuLlLuLlLuLlLuLlLuLlLuLlLuLlLuLlLuLlLuLlLuLlLuLlLuLlLuLlLuLlLuL",
    "lSoMn5Me2LuLlLuLlLuLlLuLlLuLlLuLlLuLlLuLlLuLlLuLlLuLlLuLlLuLlLuLlLuLlLuLlLuLlLuLlLuLlLuLlLuL",
    "lLuLlLuLlLuLlLuLlLuLlLuLlLu2LlLuLlLuLlLuLlLuLlLuLlLuLl2LuLlLuLlLuLlLuLlLuLlLuLlLuLlLuLlLuLlL",
    "uLlLuLlLuLlLuLlLuLlLuLlLuLlLuLlLuLlLuLlLuLlLuLlLuLlLuLlLuLlLuLlLuLlLuLlLuLlLuLlLuLlLuLlLuLlL",
    "uLlLuLlLuLlLuLlLuLlLuLlLuLlLuLlLuLlLuLlLuLlLuLlLuLlLuLlLuLlLuLlCnLu38Cn2LmPo6Ll41PoPdCn2So2S",
    "cCnMn45PdMnPoMn2PoMn2PoMnCn8Lo27Cn4Lo4Po2Cn11Cf6Sm3Po2ScPo2So2Mn11PoCfPo3Lo32LmLo10Mn21Nd10P",
    "o4Lo2MnLo99PoLoMn7CfSoMn6Lm2Mn2SoMn4Lo2Nd10Lo3So2LoPo14CnCfLoMnLo30Mn27Cn2Lo89Mn11LoCn14Nd10",
    "Lo33Mn9Lm2SoPo3LmCn2MnSc2Lo22Mn4LmMn9LmMn3LmMn5Cn2Po15CnLo25Mn3Cn2PoCnLo11Cn5Lo24SkLo6CnCf2C",
    "n6Mn8Lo41LmMn24CfMn32McLo54MnMcMnLoMc3Mn8Mc4MnMc2LoMn7Lo10Mn2Po2Nd10PoLmLo15MnMc2CnLo8Cn2Lo2",
    "Cn2Lo22CnLo7CnLoCn3Lo4Cn2MnLoMc3Mn4Cn2Mc2Cn2Mc2MnLoCn8McCn4Lo2CnLo3Mn2Cn2Nd10Lo2Sc2No6SoScLo",
    "PoMnCn2Mn2McCnLo6Cn4Lo2Cn2Lo22CnLo7CnLo2CnLo2CnLo2Cn2MnCnMc3Mn2Cn4Mn2Cn2Mn3Cn3MnCn7Lo4CnLoCn",
    "7Nd10Mn2Lo3MnPoCn10Mn2McCnLo9CnLo3CnLo22CnLo7CnLo2CnLo5Cn2MnLoMc3Mn5CnMn2McCnMc2MnCn2LoCn15L",
    "o2Mn2Cn2Nd10PoScCn7LoMn6CnMnMc2CnLo8Cn2Lo2Cn2Lo22CnLo7CnLo2CnLo5Cn2MnLoMcMnMcMn4Cn2Mc2Cn2Mc2",
    "MnCn7Mn2McCn4Lo2CnLo3Mn2Cn2Nd10SoLoNo6Cn10MnLoCnLo6Cn3Lo3CnLo4Cn3Lo2CnLoCnLo2Cn3Lo2Cn3Lo3Cn3",
    "Lo12Cn4Mc2MnMc2Cn3Mc3CnMc3MnCn2LoCn6McCn14Nd10No3So6ScSoCn5MnMc3MnLo8CnLo3CnLo23CnLo16Cn2MnL",
    "oMn3Mc4CnMn3CnMn4Cn7Mn2CnLo3Cn2LoCn2Lo2Mn2Cn2Nd10Cn7PoNo7SoLoMnMc2PoLo8CnLo3CnLo23CnLo10CnLo",
    "5Cn2MnLoMcMnMc5CnMnMc2CnMc2Mn2Cn7Mc2Cn6Lo2CnLo2Mn2Cn2Nd10CnLo2McCn12Mn2Mc2Lo9CnLo3CnLo41Mn2L",
    "oMc3Mn4CnMc3CnMc3MnLoSoCn4Lo3McNo7Lo3Mn2Cn2Nd10No9SoLo6CnMnMc2CnLo18Cn3Lo24CnLo9CnLoCn2Lo7Cn",
    "3MnCn4Mc3Mn3CnMnCnMc8Cn6Nd10Cn2Mc2PoCn12Lo48MnLo2Mn7Cn4ScLo6LmMn8PoNd10Po2Cn37Lo2CnLoCnLo5Cn",
    "Lo24CnLoCnLo10MnLo2Mn9LoCn2Lo5CnLmCnMn7CnNd10Cn2Lo4Cn32LoSo3Po15SoPoSo3Mn2So6Nd10No10SoMnSoM",
    "nSoMnPsPePsPeMc2Lo8CnLo36Cn4Mn14McMn5PoMn2Lo5Mn11CnMn36CnSo8MnSo6CnSo2Po5So4Po2Cn37Lo43Mc2Mn",
    "4McMn6McMn2Mc2Mn2LoNd10Po6Lo6Mc2Mn2Lo4Mn3LoMc3Lo2Mc7Lo3Mn4Lo13MnMc2Mn2Mc6MnLoMcNd10Mc3MnSo2L",
    "u38CnLuCn5LuCn2Ll43PoLmLl3Lo329CnLo4Cn2Lo7CnLoCnLo4Cn2Lo41CnLo4Cn2Lo33CnLo4Cn2Lo7CnLoCnLo4Cn",
    "2Lo15CnLo57CnLo4Cn2Lo67Cn2Mn3Po9No20Cn3Lo16So10Cn6Lu86Cn2Ll6Cn2PdLo620SoPoLo17ZsLo26PsPeCn3L",
    "o75Po3Nl3Lo8Cn7Lo18Mn3McCn9Lo19Mn2McPo2Cn9Lo18Mn2Cn12Lo13CnLo3CnMn2Cn12Lo52Mn2McMn7Mc8MnMc2M",
    "n11Po3LmPo3ScLoMnCn2Nd10Cn6No10Cn6Po6PdPo4Mn3CfMnNd10Cn6Lo35LmLo53Cn7Lo5Mn2Lo34MnLoCn5Lo70Cn",
    "10Lo31CnMn3Mc4Mn2Mc3Cn4Mc2MnMc6Mn3Cn4SoCn3Po2Nd10Lo30Cn2Lo5Cn11Lo44Cn4Lo26Cn6Nd10NoCn3So34Lo",
    "23Mn2Mc2MnCn2Po2Lo53McMnMcMn7CnMnMcMnMc2Mn8Mc6Mn10Cn2MnNd10Cn6Nd10Cn6Po7LmPo6Cn2Mn14MeMn16Cn",
    "49Mn4McLo47MnMcMn5McMnMc5MnMc2Lo8Cn3Nd10Po7So10Mn9So9Po2CnMn2McLo30McMn4Mc2Mn2McMn3Lo2Nd10Lo",
    "44MnMcMn2Mc3MnMcMn3Mc2Cn8Po4Lo36Mc8Mn8Mc2Mn2Cn3Po5Nd10Cn3Lo3Nd10Lo30Lm6Po2Ll9Cn7Lu43Cn2Lu3Po",
    "8Cn8Mn3PoMn13McMn7Lo4MnLo6MnLo2McMn2LoCn5Ll44Lm63Ll13LmLl34Lm37Mn64LuLlLuLlLuLlLuLlLuLlLuLlL",
    "uLlLuLlLuLlLuLlLuLlLuLlLuLlLuLlLuLlLuLlLuLlLuLlLuLlLuLlLuLlLuLlLuLlLuLlLuLlLuLlLuLlLuLlLuLlL",
    "uLlLuLlLuLlLuLlLuLlLuLlLuLlLuLlLuLlLuLlLuLlLuLlLuLlLuLlLuLlLuLlLuLlLuLlLuLlLuLlLuLlLuLlLuLlL",
    "uLlLuLlLuLlLuLlLuLlLuLlLuLlLuLlLuLlLuLlLuLlLuLlLuLlLuLlLuLlLuLlLuLlLuLlLuLlLuLlLuLlLuLlLuLl9",
    "LuLlLuLlLuLlLuLlLuLlLuLlLuLlLuLlLuLlLuLlLuLlLuLlLuLlLuLlLuLlLuLlLuLlLuLlLuLlLuLlLuLlLuLlLuLl",
    "LuLlLuLlLuLlLuLlLuLlLuLlLuLlLuLlLuLlLuLlLuLlLuLlLuLlLuLlLuLlLuLlLuLlLuLlLuLlLuLlLuLlLuLlLuLl",
    "LuLlLuLlLuLl9Lu8Ll6Cn2Lu6Cn2Ll8Lu8Ll8Lu8Ll6Cn2Lu6Cn2Ll8CnLuCnLuCnLuCnLuLl8Lu8Ll14Cn2Ll8Lt8Ll",
    "8Lt8Ll8Lt8Ll5CnLl2Lu4LtSkLlSk3Ll3CnLl2Lu4LtSk3Ll4Cn2Ll2Lu4CnSk3Ll8Lu5Sk3Cn2Ll3CnLl2Lu4LtSk2C",
    "nZs11Cf5Pd6Po2PiPfPsPi2PfPsPiPo8ZlZpCf5ZsPo9PiPfPo4Pc2Po3SmPsPePo11SmPoPcPo10ZsCf5CnCf10NoLm",
    "Cn2No6Sm3PsPeLmNo10Sm3PsPeCnLm13Cn3Sc33Cn15Mn13Me4MnMe3Mn12Cn15So2LuSo4LuSo2LlLu3Ll2Lu3LlSoL",
    "uSo2SmLu5So6LuSoLuSoLuSoLu4SoLlLu4LlLo4LlSo2Ll2Lu2Sm5LuLl4SoSmSo2LlSoNo16Nl35LuLlNl4NoSo2Cn4",
    "Sm5So5Sm2So4SmSo2SmSo2SmSo7SmSo31Sm2So2SmSoSmSo31Sm268So8PsPePsPeSo20Sm2So7PsPeSo81SmSo30Sm2",
    "5So40Sm6So69Cn25So11Cn21No60So78No22So183SmSo9SmSo54Sm8So111SmSo248PsPePsPePsPePsPePsPePsPeP",
    "sPeNo30So44Sm5PsPeSm31PsPePsPePsPePsPePsPeSm16So256Sm131PsPePsPePsPePsPePsPePsPePsPePsPePsPe",
    "PsPePsPeSm63PsPePsPeSm32PsPeSm258So48Sm21So2Sm6So39Cn2So32CnSo105Lu48Ll48LuLlLu3Ll2LuLlLuLlL",
    "uLlLu4LlLuLl2LuLl6Lm2Lu3LlLuLlLuLlLuLlLuLlLuLlLuLlLuLlLuLlLuLlLuLlLuLlLuLlLuLlLuLlLuLlLuLlLu",
    "LlLuLlLuLlLuLlLuLlLuLlLuLlLuLlLuLlLuLlLuLlLuLlLuLlLuLlLuLlLuLlLuLlLuLlLuLlLuLlLuLlLuLlLuLlLu",
    "LlLuLlLuLlLuLlLuLlLuLlLuLlLuLlLuLlLuLl2So6LuLlLuLlMn3LuLlCn5Po4NoPo2Ll38CnLlCn5LlCn2Lo56Cn7L",
    "mPoCn14MnLo23Cn9Lo7CnLo7CnLo7CnLo7CnLo7CnLo7CnLo7CnLo7CnMn32Po2PiPfPiPfPo3PiPfPoPiPfPo9PdPo2",
    "PdPoPiPfPo2PiPfPsPePsPePsPePsPePo5LmPo10Pd2Po4PdPoPsPo13So2Po3PsPePsPePsPePsPePdCn34So26CnSo",
    "89Cn12So214Cn26So12Cn4ZsPo3SoLmLoNlPsPePsPePsPePsPePsPeSo2PsPePsPePsPePsPePdPsPe2SoNl9Mn4Mc2",
    "PdLm5So2Nl3LmLoPoSo2CnLo86Cn2Mn2Sk2Lm2LoPdLo90PoLm3LoCn5Lo43CnLo94CnSo2No4So10Lo32So36Cn12Lo",
    "16So31CnNo10So30No8SoNo15So32No10So39No15So320Lo6592So64Lo21013LmLo1143Cn3So55Cn9Lo40Lm6Po2L",
    "o268LmPo3Lo16Nd10Lo2Cn20LuLlLuLlLuLlLuLlLuLlLuLlLuLlLuLlLuLlLuLlLuLlLuLlLuLlLuLlLuLlLuLlLuLl",
    "LuLlLuLlLuLlLuLlLuLlLuLlLoMnMe3PoMn10PoLmLuLlLuLlLuLlLuLlLuLlLuLlLuLlLuLlLuLlLuLlLuLlLuLlLuL",
    "lLuLlLm2Mn2Lo70Nl10Mn2Po6Cn8Sk23Lm9Sk2LuLlLuLlLuLlLuLlLuLlLuLlLuLl3LuLlLuLlLuLlLuLlLuLlLuLlL",
    "uLlLuLlLuLlLuLlLuLlLuLlLuLlLuLlLuLlLuLlLuLlLuLlLuLlLuLlLuLlLuLlLuLlLuLlLuLlLuLlLuLlLuLlLuLlL",
    "uLlLuLlLmLl8LuLlLuLlLu2LlLuLlLuLlLuLlLuLlLmSk2LuLlLuLlLoLuLlLuLl3LuLlLuLlLuLlLuLlLuLlLuLlLuL",
    "lLuLlLuLlLuLlLu5LlLu5LlLuLlLuLlLuLlLuLlLuLlLuLlLuLlLu4LlLuLlCn5LuLlCnLlCnLlLuLlLuLlCn24Lm3Lu",
    "LlLoLm2LlLo7MnLo3MnLo4MnLo23Mc2Mn2McSo4MnCn3No6So2ScSoCn6Lo52Po4Cn8Mc2Lo50Mc16Mn2Cn8Po2Nd10C",
    "n6Mn18Lo6Po3LoPoLo2MnNd10Lo28Mn8Po2Lo23Mn11Mc2Cn11PoLo29Cn3Mn3McLo47MnMc2Mn4Mc2Mn2Mc3Po13CnL",
    "mNd10Cn4Po2Lo5MnLmLo9Nd10Lo5CnLo41Mn6Mc2Mn2Mc2Mn2Cn9Lo3MnLo8MnMcCn2Nd10Cn2Po4Lo16LmLo6So3LoM",
    "cMnMcLo50MnLoMn3Lo2Mn2Lo5Mn2LoMnLoCn24Lo2LmPo2Lo11McMn2Mc2Po2LoLm2McMnCn10Lo6Cn2Lo6Cn2Lo6Cn9",
    "Lo7CnLo7CnLl43SkLm4Ll9LmSk2Cn4Ll80Lo35Mc2MnMc2MnMc2PoMcMnCn2Nd10Cn6Lo11172Cn12Lo23Cn4Lo49Cn4",
    "Cs2048Co6400Lo366Cn2Lo106Cn38Ll7Cn12Ll5Cn5LoMnLo10SmLo13CnLo5CnLoCnLo2CnLo2CnLo108Sk17Cn16Lo",
    "363PePsSo16Lo64Cn2Lo54Cn7SoCn32Lo12ScSo3Mn16Po7PsPePoCn6Mn16PoPd2Pc2PsPePsPePsPePsPePsPePsPe",
    "PsPePsPePo2PsPePo4Pc3Po3CnPo4PdPsPePsPePsPePo3SmPdSm3CnPoScPo2Cn4Lo5CnLo135Cn2CfCnPo3ScPo3Ps",
    "PePoSmPoPdPo2Nd10Po2Sm3Po2Lu26PsPoPeSkPcSkLl26PsSmPeSmPsPePoPsPePo2Lo10LmLo45Lm2Lo31Cn3Lo6Cn",
    "2Lo6Cn2Lo6Cn2Lo3Cn3Sc2SmSkSoSc2CnSoSm4So2Cn10Cf3So2Cn2Lo12CnLo26CnLo19CnLo2CnLo15Cn2Lo14Cn34",
    "Lo123Cn5Po3Cn4No45Cn3So9Nl53No4So17No2So3CnSo13Cn3SoCn47So45MnCn130Lo29Cn3Lo49Cn15MnNo27Cn4L",
    "o32No4Cn9Lo20NlLo8NlCn5Lo38Mn5Cn5Lo30CnPoLo36Cn4Lo8PoNl5Cn42Lu40Ll40Lo78Cn2Nd10Cn6Lu36Cn4Ll3",
    "6Cn4Lo40Cn8Lo52Cn11PoLu11CnLu15CnLu7CnLu2CnLl11CnLl15CnLl7CnLl2Cn67Lo311Cn9Lo22Cn10Lo8Cn24Lm",
    "6CnLm42CnLm9Cn69Lo6Cn2LoCnLo44CnLo2Cn3LoCn2Lo23CnPoNo8Lo23So2No7Lo31Cn8No9Cn48Lo19CnLo2Cn5No",
    "5Lo22No6Cn3PoLo26Cn5PoCn64Lo56Cn4No2Lo2No16Cn2No46LoMn3CnMn2Cn5Mn4Lo4CnLo3CnLo29Cn2Mn3Cn4MnN",
    "o9Cn7Po9Cn7Lo29No2PoLo29No3Cn32Lo8SoLo28Mn2Cn4No5Po7Cn9Lo54Cn3Po7Lo22Cn2No8Lo19Cn5No8Lo18Cn7",
    "Po4Cn12No7Cn80Lo73Cn55Lu51Cn13Ll51Cn7No6Lo36Mn4Cn8Nd10Cn294No31CnLo42CnMn2PdCn2Lo2Cn75Mn3Lo2",
    "9No10LoCn8Lo22Mn11No4Po5Cn22Lo18Mn4Po4Cn38Lo21No7Cn20Lo23Cn9McMnMcLo53Mn15Po7Cn4No20Nd10MnLo",
    "2Mn2LoCn9Mn3McLo45Mc3Mn4Mc2Mn2Po2CfPo4MnCn10CfCn2Lo25Cn7Nd10Cn6Mn3Lo36Mn5McMn8CnNd10Po4LoMc2",
    "LoCn8Lo35MnPo2LoCn9Mn2McLo48Mc3Mn9Mc2Lo4Po4Mn4PoMcMnNd10LoPoLoPo3CnNo20Cn11Lo18CnLo25Mc3Mn3M",
    "c2MnMcMn2Po6MnLo2MnCn62Lo7CnLoCnLo4CnLo15CnLo10PoCn6Lo47MnMc3Mn8Cn5Nd10Cn6Mn2Mc2CnLo8Cn2Lo2C",
    "n2Lo22CnLo7CnLo2CnLo5CnMn2LoMc2MnMc4Cn2Mc2Cn2Mc3Cn2LoCn6McCn5Lo5Mc2Cn2Mn7Cn3Mn5Cn139Lo53Mc3M",
    "n8Mc2Mn3McMnLo4Po5Nd10Po2CnPoMnLo3Cn30Lo48Mc3Mn6McMnMc4Mn2McMn2Lo2PoLoCn8Nd10Cn166Lo47Mc3Mn4",
    "Cn2Mc4Mn2McMn2Po23Lo4Mn2Cn34Lo48Mc3Mn8Mc2MnMcMn2Po3LoCn11Nd10Cn6Po13Cn19Lo43MnMcMnMc2Mn6McMn",
    "LoPoCn6Nd10Cn54Lo27Cn2Mn3Mc2Mn4McMn5Cn4Nd10No2Po3SoLo7Cn185Lo44Mc3Mn9McMn2PoCn100Lu32Ll32Nd1",
    "0No9Cn12Lo8Cn2LoCn2Lo8CnLo2CnLo24Mc6CnMc2Cn2Mn2McMnLoMcLoMcMnPo3Cn9Nd10Cn70Lo8Cn2Lo39Mc3Mn4C",
    "n2Mn2Mc4MnLoPoLoMcCn27LoMn10Lo40Mn6McLoMn4Po8MnCn8LoMn6Mc2Mn3Lo46Mn13McMn2Po3LoPo5Cn13Lo73Cn",
    "7Po10Cn246Lo9CnLo37McMn7CnMn6McMnLoPo5Cn10Nd10No19Cn3Po2Lo30Cn2Mn22CnMcMn7McMn2McMn2Cn73Lo7C",
    "nLo2CnLo38Mn6Cn3MnCnMn2CnMn7LoMnCn8Nd10Cn6Lo6CnLo2CnLo32Mc5CnMn2CnMc2MnMcMnLoCn7Nd10Cn310Lo1",
    "9Mn2Mc2Po2Cn7Mn2LoMcLo13CnLo34Mc2Mn5Cn3Mc2MnMcMnPo13Nd10Cn86LoCn15No21So8Sc4So17Cn13PoLo922C",
    "n102Nl111CnPo5Cn11Lo196Cn2636Lo97Po2Cn13Lo1072Cf16MnLo6Mn15Cn4010Lo583Cn8633Lo569Cn7Lo31CnNd",
    "10Cn4Po2Lo79CnNd10Cn6Lo30Cn2Mn5PoCn10Lo48Mn7Po5So4Lm4PoSoCn10Nd10CnNo7CnLo21Cn5Lo19Cn688Lu32",
    "Ll32No23Po4Cn101Lo75Cn4MnLoMc55Cn7Mn4Lm13Cn64Lm2PoLmMnCn11Mc2Cn14Lo6136Cn8Lo1238Cn42Lo9Cn893",
    "5Lm4CnLm7CnLm2CnLo291Cn15LoCn29Lo3Cn2LoCn14Lo4Cn8Lo396Cn2308Lo107Cn5Lo13Cn3Lo9Cn7Lo10Cn2SoMn",
    "2PoCf4Cn4700Mn46Cn2Mn23Cn9So116Cn60So246Cn10So39Cn2So60Mc2Mn3So3Mc6Cf8Mn8So2Mn7So30Mn4So61Cn",
    "21So66Mn3SoCn122No20Cn12No20Cn12So87Cn9No25Cn135Lu26Ll26Lu26Ll7CnLl18Lu26Ll26LuCnLu2Cn2LuCn2",
    "Lu2Cn2Lu4CnLu8Ll4CnLlCnLl7CnLl11Lu26Ll26Lu2CnLu4Cn2Lu8CnLu7CnLl26Lu2CnLu4CnLu5CnLuCn3Lu7CnLl",
    "26Lu26Ll26Lu26Ll26Lu26Ll26Lu26Ll26Lu26Ll26Lu26Ll28Cn2Lu25SmLl25SmLl6Lu25SmLl25SmLl6Lu25SmLl2",
    "5SmLl6Lu25SmLl25SmLl6Lu25SmLl25SmLl6LuLlCn2Nd50So512Mn55So4Mn50So8MnSo14MnSo2Po5Cn15Mn5CnMn1",
    "5Cn1104Ll10LoLl20Cn6Ll6Cn213Mn7CnMn17Cn2Mn7CnMn2CnMn5Cn5Lm62Cn33MnCn112Lo45Cn3Mn7Lm7Cn2Nd10C",
    "n4LoSoCn320Lo30MnCn17Lo44Mn4Nd10Cn5ScCn464Lo27LmMn4Nd10Cn742Lo7CnLo4CnLo2CnLo15CnLo197Cn2No9",
    "Mn7Cn41Lu34Ll34Mn7LmCn4Nd10Cn4Po2Cn785No59SoNo3ScNo4Cn76No45SoNo15Cn194Lo4CnLo27CnLo2CnLoCn2",
    "LoCnLo10CnLo4CnLoCnLoCn6LoCn4LoCnLoCnLoCnLo3CnLo2CnLoCn2LoCnLoCnLoCnLoCnLoCnLo2CnLoCn2Lo4CnL",
    "o7CnLo4CnLo4CnLoCnLo10CnLo17Cn5Lo3CnLo5CnLo17Cn52Sm2Cn270So44Cn4So100Cn12So15Cn2So15CnSo15Cn",
    "So37Cn10No13So161Cn56So29Cn13So44Cn4So9Cn7So2Cn14So6Cn154So251Sk5So728Cn4So17Cn3So13Cn3So119",
    "Cn4So95Cn6So12Cn4SoCn15So12Cn4So56Cn8So10Cn6So40Cn8So30Cn2So2Cn78So340Cn12So14Cn2So13Cn3So9C",
    "n7So46CnSo7Cn8So14Cn4So9Cn7So9Cn7So147CnSo55Cn37Nd10Cn1030Lo42720Cn32Lo4154Cn6Lo222Cn2Lo5762",
    "Cn14Lo7473Cn3103Lo542Cn1506Lo4939Cn5Lo4192Cn711761CfCn30Cf96Cn128Mn240Cn65040Co65534Cn2Co655",
    "34Cn2Cn"]

/-- Categories with first and last code points. -/
def runs : List (String × Nat × Nat) := Runs.read table

/-- The names of categories and groups of categories, without capitals and blanks, and the
categories they stand for. -/
def names : List (List String × List String) :=
  [(["c", "other"], ["Cc", "Cf", "Cn", "Co", "Cs"]), (["cc", "control", "cntrl"], ["Cc"]),
  (["cf", "format"], ["Cf"]), (["cn", "unassigned"], ["Cn"]), (["co", "privateuse"], ["Co"]),
  (["cs", "surrogate"], ["Cs"]), (["l", "letter"], ["Ll", "Lm", "Lo", "Lt", "Lu"]),
  (["lc", "casedletter"], ["Ll", "Lt", "Lu"]), (["ll", "lowercaseletter"], ["Ll"]),
  (["lm", "modifierletter"], ["Lm"]), (["lo", "otherletter"], ["Lo"]),
  (["lt", "titlecaseletter"], ["Lt"]), (["lu", "uppercaseletter"], ["Lu"]),
  (["m", "mark", "combiningmark"], ["Mc", "Me", "Mn"]), (["mc", "spacingmark"], ["Mc"]),
  (["me", "enclosingmark"], ["Me"]), (["mn", "nonspacingmark"], ["Mn"]),
  (["n", "number"], ["Nd", "Nl", "No"]), (["nd", "decimalnumber", "digit"], ["Nd"]),
  (["nl", "letternumber"], ["Nl"]), (["no", "othernumber"], ["No"]),
  (["p", "punctuation", "punct"], ["Pc", "Pd", "Pe", "Pf", "Pi", "Po", "Ps"]),
  (["pc", "connectorpunctuation"], ["Pc"]), (["pd", "dashpunctuation"], ["Pd"]),
  (["pe", "closepunctuation"], ["Pe"]), (["pf", "finalpunctuation"], ["Pf"]),
  (["pi", "initialpunctuation"], ["Pi"]), (["po", "otherpunctuation"], ["Po"]),
  (["ps", "openpunctuation"], ["Ps"]), (["s", "symbol"], ["Sc", "Sk", "Sm", "So"]),
  (["sc", "currencysymbol"], ["Sc"]), (["sk", "modifiersymbol"], ["Sk"]),
  (["sm", "mathsymbol"], ["Sm"]), (["so", "othersymbol"], ["So"]),
  (["z", "separator"], ["Zl", "Zp", "Zs"]), (["zl", "lineseparator"], ["Zl"]),
  (["zp", "paragraphseparator"], ["Zp"]), (["zs", "spaceseparator"], ["Zs"])]

/-- The code points that have one of some categories. -/
def ranges (categories : List String) : List (Nat × Nat) := Runs.ranges runs categories

/-- The code points of a category or group of categories with this name. -/
def named? (name : String) : Option (List (Nat × Nat)) :=
  (names.find? fun entry => entry.1.contains name).map fun entry => ranges entry.2

/-- The categories of letters, and of numbers that are letters. -/
def letters : List String := ["Ll", "Lm", "Lo", "Lt", "Lu", "Nl"]

/-- The categories of marks that combine with letters. -/
def marks : List String := ["Mc", "Me", "Mn"]

end Microbench.Category
