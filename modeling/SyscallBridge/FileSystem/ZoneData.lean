import SyscallBridge.Text.Hex

/-!
# The local time zone

Zone data of the American Pacific coast, written in hexadecimal.
-/

namespace SyscallBridge.ZoneData

def pieces : List String := [
  "545a696632000000000000000000000000000000000000040000000400000000000000efbfbd0000000400000010",
  "efbfbdefbfbd48efbfbdefbfbdefbfbd15efbfbdefbfbdefbfbd2aefbfbdefbfbdefbfbdefbfbdefbfbdcb891aef",
  "bfbdefbfbd23efbfbd70efbfbd612610efbfbdefbfbd7420d880efbfbdefbfbdefbfbdefbfbdd1a0efbfbdefbfbd",
  "efbfbd10efbfbddeb3efbfbddda9efbfbdefbfbddebeefbfbdefbfbddf89efbfbdefbfbdefbfbdefbfbd77efbfbd",
  "efbfbd6970efbfbdefbfbd7e59efbfbdefbfbd4952efbfbdefbfbd5e3befbfbdefbfbd2934efbfbdefbfbd475820",
  "efbfbd125110efbfbd273a20efbfbdefbfbd3310efbfbd071c20efbfbdefbfbd1510efbfbdefbfbdefbfbd20efbf",
  "bdefbfbd10efbfbdefbfbdefbfbd20efbfbdefbfbd10efbfbdefbfbdefbfbdefbfbd71efbfbd10efbfbddea0efbf",
  "bd7fefbfbdefbfbdefbfbd6fefbfbdefbfbdefbfbd5fefbfbdefbfbdefbfbd4fefbfbdefbfbdefbfbd3fefbfbdef",
  "bfbdefbfbd2fefbfbdefbfbdefbfbd28efbfbd10efbfbd0f66efbfbdefbfbd08efbfbd10efbfbdefbfbdefbfbd20",
  "efbfbdefbfbd6610efbfbdefbfbd6520efbfbdefbfbd4810efbfbdefbfbd4720efbfbdefbfbd2a1000efbfbd2920",
  "01efbfbd0c1002780b20037128efbfbd046127efbfbd05510aefbfbd064109efbfbd0730efbfbd07efbfbd43efbf",
  "bd0910ce9009efbfbdefbfbd200aefbfbd0be0afa00cefbfbdefbfbd100defbfbdefbfbdefbfbd0eefbfbdefbfbd",
  "100fefbfbdefbfbd2010efbfbdefbfbd1011efbfbdefbfbd20127973101369722014595510154954201639371017",
  "293620182253efbfbd190918201a0235efbfbd1aefbfbd34efbfbd1befbfbd17efbfbd1cefbfbd16efbfbd1defbf",
  "bdefbfbdefbfbd1eefbfbdefbfbdefbfbd1fefbfbddb9020762b2021efbfbdefbfbdefbfbd22560d20236aefbfbd",
  "102435efbfbd20254aefbfbd102615efbfbd20272aefbfbd1027efbfbdefbfbdefbfbd290aefbfbd1029efbfbdcf",
  "a02aefbfbd62102befbfbdefbfbdefbfbd2cefbfbd7eefbfbd2defbfbdefbfbdefbfbd2eefbfbd60efbfbd2f7e75",
  "efbfbd30efbfbd42efbfbd3167efbfbd20327324efbfbd33477420345306efbfbd352756203632efbfbd37073820",
  "381c051038efbfbd1a2039efbfbdefbfbd103aefbfbdefbfbd203befbfbdefbfbd103cefbfbd18efbfbd3defbfbd",
  "efbfbd103eefbfbdefbfbdefbfbd3fefbfbdefbfbd10406fdca041efbfbdefbfbdefbfbd424fefbfbdefbfbd4364",
  "efbfbdefbfbd442fefbfbdefbfbd45446defbfbd45efbfbdefbfbd20472defbfbd1047d3b520490d6c1049efbfbd",
  "efbfbd204aefbfbd4e104befbfbdefbfbdefbfbd4cefbfbd6aefbfbd4d7cefbfbdefbfbd4eefbfbd4cefbfbd4f5c",
  "77efbfbd50efbfbd2eefbfbd513c59efbfbd527610efbfbd531c3befbfbd5455efbfbd54efbfbd1defbfbd5635d4",
  "9056efbfbd3a20581eefbfbd1058efbfbd1c2059efbfbdefbfbd105aefbfbdefbfbd205bdeb5105cefbfbdefbfbd",
  "205defbfbdefbfbd105e64efbfbd205fefbfbd7910604ddea061efbfbdefbfbdefbfbd622defbfbdefbfbd636777",
  "efbfbd640defbfbdefbfbd654759efbfbd65ed84a067273befbfbd67efbfbd66efbfbd69071defbfbd69efbfbd48",
  "efbfbd6aefbfbdefbfbdefbfbd6befbfbd65206cefbfbd1c106d7647206eefbfbdefbfbd106f56292070efbfbdef",
  "bfbd1071360b20726fefbfbd107315efbfbd20744fefbfbd1074efbfbd09efbfbd7638efbfbdefbfbd76efbfbdef",
  "bfbd7818efbfbdefbfbd78efbfbdcda079efbfbdefbfbdefbfbd7aefbfbdefbfbdefbfbd7befbfbd66efbfbd7c7e",
  "efbfbdefbfbd7defbfbd48efbfbd7e5e73efbfbd7fefbfbd2aefbfbd000100010203010001000100010001000100",
  "01000100010001000100010001000100010001000100010001000100010001000100010001000100010001000100",
  "01000100010001000100010001000100010001000100010001000100010001000100010001000100010001000100",
  "01000100010001000100010001000100010001000100010001000100010001000100010001000100010001000100",
  "0100010001000100010001000100010001000100010001000100010001efbfbdefbfbdefbfbdefbfbd0100efbfbd",
  "efbfbdefbfbdefbfbd0004efbfbdefbfbdefbfbdefbfbd0108efbfbdefbfbdefbfbdefbfbd010c50445400505354",
  "0050575400505054000000000100000001545a696632000000000000000000000000000000000000050000000500",
  "000000000000efbfbd0000000500000014efbfbdefbfbdefbfbdefbfbd5e041aefbfbdefbfbdefbfbdefbfbdefbf",
  "bdefbfbdefbfbd48efbfbdefbfbdefbfbdefbfbdefbfbdefbfbdefbfbd15efbfbdefbfbdefbfbdefbfbdefbfbdef",
  "bfbdefbfbd2aefbfbdefbfbdefbfbdefbfbdefbfbdefbfbdefbfbdefbfbdefbfbdefbfbdefbfbdefbfbdefbfbdcb",
  "891aefbfbdefbfbdefbfbdefbfbdefbfbdefbfbd23efbfbd70efbfbdefbfbdefbfbdefbfbdefbfbd612610efbfbd",
  "efbfbdefbfbdefbfbdefbfbdefbfbd7420efbfbdefbfbdefbfbdefbfbdd880efbfbdefbfbdefbfbdefbfbdefbfbd",
  "efbfbdefbfbdefbfbdd1a0efbfbdefbfbdefbfbdefbfbdefbfbdefbfbdefbfbd10efbfbdefbfbdefbfbdefbfbdef",
  "bfbddeb3efbfbdefbfbdefbfbdefbfbdefbfbddda9efbfbdefbfbdefbfbdefbfbdefbfbdefbfbddebeefbfbdefbf",
  "bdefbfbdefbfbdefbfbdefbfbddf89efbfbdefbfbdefbfbdefbfbdefbfbdefbfbdefbfbdefbfbd77efbfbdefbfbd",
  "efbfbdefbfbdefbfbdefbfbd6970efbfbdefbfbdefbfbdefbfbdefbfbdefbfbd7e59efbfbdefbfbdefbfbdefbfbd",
  "efbfbdefbfbd4952efbfbdefbfbdefbfbdefbfbdefbfbdefbfbd5e3befbfbdefbfbdefbfbdefbfbdefbfbdefbfbd",
  "2934efbfbdefbfbdefbfbdefbfbdefbfbdefbfbd475820efbfbdefbfbdefbfbdefbfbdefbfbd125110efbfbdefbf",
  "bdefbfbdefbfbdefbfbd273a20efbfbdefbfbdefbfbdefbfbdefbfbdefbfbd3310efbfbdefbfbdefbfbdefbfbdef",
  "bfbd071c20efbfbdefbfbdefbfbdefbfbdefbfbdefbfbd1510efbfbdefbfbdefbfbdefbfbdefbfbdefbfbdefbfbd",
  "20efbfbdefbfbdefbfbdefbfbdefbfbdefbfbd10efbfbdefbfbdefbfbdefbfbdefbfbdefbfbdefbfbd20efbfbdef",
  "bfbdefbfbdefbfbdefbfbdefbfbd10efbfbdefbfbdefbfbdefbfbdefbfbdefbfbdefbfbdefbfbdefbfbdefbfbdef",
  "bfbdefbfbd71efbfbd10efbfbdefbfbdefbfbdefbfbdefbfbddea0efbfbdefbfbdefbfbdefbfbdefbfbd7fefbfbd",
  "efbfbdefbfbdefbfbdefbfbdefbfbdefbfbd6fefbfbdefbfbdefbfbdefbfbdefbfbdefbfbdefbfbd5fefbfbdefbf",
  "bdefbfbdefbfbdefbfbdefbfbdefbfbd4fefbfbdefbfbdefbfbdefbfbdefbfbdefbfbdefbfbd3fefbfbdefbfbdef",
  "bfbdefbfbdefbfbdefbfbdefbfbd2fefbfbdefbfbdefbfbdefbfbdefbfbdefbfbdefbfbd28efbfbd10efbfbdefbf",
  "bdefbfbdefbfbdefbfbd0f66efbfbdefbfbdefbfbdefbfbdefbfbdefbfbd08efbfbd10efbfbdefbfbdefbfbdefbf",
  "bdefbfbdefbfbdefbfbd20efbfbdefbfbdefbfbdefbfbdefbfbdefbfbd6610efbfbdefbfbdefbfbdefbfbdefbfbd",
  "efbfbd6520efbfbdefbfbdefbfbdefbfbdefbfbdefbfbd4810efbfbdefbfbdefbfbdefbfbdefbfbdefbfbd4720ef",
  "bfbdefbfbdefbfbdefbfbdefbfbdefbfbd2a100000000000efbfbd29200000000001efbfbd0c100000000002780b",
  "2000000000037128efbfbd00000000046127efbfbd0000000005510aefbfbd00000000064109efbfbd0000000007",
  "30efbfbd0000000007efbfbd43efbfbd000000000910ce900000000009efbfbdefbfbd20000000000aefbfbd0000",
  "00000be0afa0000000000cefbfbdefbfbd10000000000defbfbdefbfbdefbfbd000000000eefbfbdefbfbd100000",
  "00000fefbfbdefbfbd200000000010efbfbdefbfbd100000000011efbfbdefbfbd20000000001279731000000000",
  "13697220000000001459551000000000154954200000000016393710000000001729362000000000182253efbfbd",
  "0000000019091820000000001a0235efbfbd000000001aefbfbd34efbfbd000000001befbfbd17efbfbd00000000",
  "1cefbfbd16efbfbd000000001defbfbdefbfbdefbfbd000000001eefbfbdefbfbdefbfbd000000001fefbfbddb90",
  "0000000020762b200000000021efbfbdefbfbdefbfbd0000000022560d2000000000236aefbfbd10000000002435",
  "efbfbd2000000000254aefbfbd10000000002615efbfbd2000000000272aefbfbd100000000027efbfbdefbfbdef",
  "bfbd00000000290aefbfbd100000000029efbfbdcfa0000000002aefbfbd6210000000002befbfbdefbfbdefbfbd",
  "000000002cefbfbd7eefbfbd000000002defbfbdefbfbdefbfbd000000002eefbfbd60efbfbd000000002f7e75ef",
  "bfbd0000000030efbfbd42efbfbd000000003167efbfbd2000000000327324efbfbd000000003347742000000000",
  "345306efbfbd0000000035275620000000003632efbfbd000000003707382000000000381c05100000000038efbf",
  "bd1a200000000039efbfbdefbfbd10000000003aefbfbdefbfbd20000000003befbfbdefbfbd10000000003cefbf",
  "bd18efbfbd000000003defbfbdefbfbd10000000003eefbfbdefbfbdefbfbd000000003fefbfbdefbfbd10000000",
  "00406fdca00000000041efbfbdefbfbdefbfbd00000000424fefbfbdefbfbd000000004364efbfbdefbfbd000000",
  "00442fefbfbdefbfbd0000000045446defbfbd0000000045efbfbdefbfbd2000000000472defbfbd100000000047",
  "d3b52000000000490d6c100000000049efbfbdefbfbd20000000004aefbfbd4e10000000004befbfbdefbfbdefbf",
  "bd000000004cefbfbd6aefbfbd000000004d7cefbfbdefbfbd000000004eefbfbd4cefbfbd000000004f5c77efbf",
  "bd0000000050efbfbd2eefbfbd00000000513c59efbfbd00000000527610efbfbd00000000531c3befbfbd000000",
  "005455efbfbd0000000054efbfbd1defbfbd000000005635d4900000000056efbfbd3a2000000000581eefbfbd10",
  "0000000058efbfbd1c200000000059efbfbdefbfbd10000000005aefbfbdefbfbd20000000005bdeb51000000000",
  "5cefbfbdefbfbd20000000005defbfbdefbfbd10000000005e64efbfbd20000000005fefbfbd791000000000604d",
  "dea00000000061efbfbdefbfbdefbfbd00000000622defbfbdefbfbd00000000636777efbfbd00000000640defbf",
  "bdefbfbd00000000654759efbfbd0000000065ed84a00000000067273befbfbd0000000067efbfbd66efbfbd0000",
  "000069071defbfbd0000000069efbfbd48efbfbd000000006aefbfbdefbfbdefbfbd000000006befbfbd65200000",
  "00006cefbfbd1c10000000006d764720000000006eefbfbdefbfbd10000000006f5629200000000070efbfbdefbf",
  "bd100000000071360b2000000000726fefbfbd10000000007315efbfbd2000000000744fefbfbd100000000074ef",
  "bfbd09efbfbd000000007638efbfbdefbfbd0000000076efbfbdefbfbd000000007818efbfbdefbfbd0000000078",
  "efbfbdcda00000000079efbfbdefbfbdefbfbd000000007aefbfbdefbfbdefbfbd000000007befbfbd66efbfbd00",
  "0000007c7eefbfbdefbfbd000000007defbfbd48efbfbd000000007e5e73efbfbd000000007fefbfbd2aefbfbd02",
  "01020102030402010201020102010201020102010201020102010201020102010201020102010201020102010201",
  "02010201020102010201020102010201020102010201020102010201020102010201020102010201020102010201",
  "02010201020102010201020102010201020102010201020102010201020102010201020102010201020102010201",
  "02010201020102010201020102010201020102010201020102010201020102010201020102010201020102010201",
  "02efbfbdefbfbdefbfbd260000efbfbdefbfbdefbfbdefbfbd0104efbfbdefbfbdefbfbdefbfbd0008efbfbdefbf",
  "bdefbfbdefbfbd010cefbfbdefbfbdefbfbdefbfbd01104c4d540050445400505354005057540050505400000000",
  "000100000000010a505354385044542c4d332e322e302c4d31312e312e300a"]

def bytes : Bytes := ((pieces.map Hex.decode?).map fun piece => piece.getD []).flatten

end SyscallBridge.ZoneData
