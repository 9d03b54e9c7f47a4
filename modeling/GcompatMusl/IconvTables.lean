import Mathlib.Data.Nat.Bitwise

/-! # The tables of `iconv`

A table of 16-bit entries is kept by rows, each row as one number whose digits are the entries in
the order of the source. A code page is kept as the number whose digits are its bytes. -/
namespace Iconv

/-- Entry `j` of a row of `width` entries -/
def digit (width row j : ℕ) : ℕ := row >>> (16 * (width - 1 - j)) % 2 ^ 16

/-- Entry `i` of a table with rows of `width` entries -/
def entry (width : ℕ) (rows : List ℕ) (i : ℕ) : ℕ :=
  digit width (rows.getD (i / width) 0) (i % width)

/-- The charsets of `charmaps`. A code page has the number of elided quads and its bytes. -/
inductive Charset where
  | UTF_32BE
  | UTF_16LE
  | UTF_16BE
  | UTF_32LE
  | UCS2BE
  | UCS2LE
  | WCHAR_T
  | US_ASCII
  | UTF_8
  | UTF_16
  | UTF_32
  | UCS2
  | EUC_JP
  | SHIFT_JIS
  | ISO2022_JP
  | GB18030
  | GBK
  | GB2312
  | BIG5
  | EUC_KR
  | codepage (quads : ℕ) (bytes : ℕ)
  deriving DecidableEq, Repr

structure Charmap where
  names : List String
  charset : Charset

def charmaps : List Charmap := [
  ⟨["utf8", "char"], .UTF_8⟩,
  ⟨["wchart"], .WCHAR_T⟩,
  ⟨["ucs2be"], .UCS2BE⟩,
  ⟨["ucs2le"], .UCS2LE⟩,
  ⟨["utf16be"], .UTF_16BE⟩,
  ⟨["utf16le"], .UTF_16LE⟩,
  ⟨["ucs4be", "utf32be"], .UTF_32BE⟩,
  ⟨["ucs4le", "utf32le"], .UTF_32LE⟩,
  ⟨["ascii", "usascii", "iso646", "iso646us"], .US_ASCII⟩,
  ⟨["utf16"], .UTF_16⟩,
  ⟨["ucs4", "utf32"], .UTF_32⟩,
  ⟨["ucs2"], .UCS2⟩,
  ⟨["eucjp"], .EUC_JP⟩,
  ⟨["shiftjis", "sjis", "cp932"], .SHIFT_JIS⟩,
  ⟨["iso2022jp"], .ISO2022_JP⟩,
  ⟨["gb18030"], .GB18030⟩,
  ⟨["gbk"], .GBK⟩,
  ⟨["gb2312"], .GB2312⟩,
  ⟨["big5", "bigfive", "cp950", "big5hkscs"], .BIG5⟩,
  ⟨["euckr", "ksc5601", "ksx1001", "cp949"], .EUC_KR⟩,
  ⟨["iso88591", "latin1"], .codepage 64 0⟩,
  ⟨["iso88592"], .codepage 40
    0xa010f4574ea4dcf4d429a8543555566eb522175cb01414984eb4e004955fb8584595566f0d36575c4905238c40c4cc64d0310c2563d1321835e38c4310edf4d334d41465cd354d8da54d59dc7473d5374a8523ce40e4d074d0390da573d13a19b5e3ce4311f104d43cf41865cf3d4e91a58f59fcf4831560⟩,
  ⟨["iso88593"], .codepage 40
    0xa090f4d728a40020d229a8b03415472eb502005cb09424cb2cb4d432d22db8b44455472ff502405cc004230c00c42884d031c824a3cc32cc34e3cc33004423cd34d47864cd351a65a3cd36dc8415d537e084230e00e42c94d039e8a4a3ce3aecb4e3ce3b00c423cf3cf47c64cf3d1be5a3cf3efc88251560⟩,
  ⟨["iso88594"], .codepage 40
    0xa01024d352a49854d329a8542511485bb522d72bb014141853b49c64935fb8583551485c05359750000523cc30c414638c4a0c2563d1321435e30c4a10f534144cd45463cd35d89ca5cd36dc74f5d537018523ce38e49463ce4a0da573d13a15b5e34e4a11f944544cf4d463cf3df8a0a5cf3efc78051660⟩,
  ⟨["iso88595"], .codepage 40
    0xa04427dd74d45567dd75d865a7dd76dcb5d29d77df81179e78e391579e79e7a1979e7aebb1d79e7befc1179f7cf3d1579f7df7e1979f7efbf1d79f7fff0118a080031258a081072298a0820b32d8a0830f4218a184135258a185176298a1861b72d8a187267f086288228e486289269e88628a2a9eb2228b⟩,
  ⟨["iso88596"], .codepage 40
    0xa000000000a400000000000000000062b602000000000000000000000000000000c0980000000099009469e69968a6a9e69a6cb6e9e69b70c629e79c74d669e79d78e6a9e79e7cf6e9270000000000007f021aa8a083125aa8a187229aa8a28b32daa8a38f421a2900000000000000000000000000000000⟩,
  ⟨["iso88597"], .codepage 40
    0xa04c4cf12824976cca29a8a492d82aacb40240c4b0c422cb2c8a2dc6d82d8d39f6d82e90f5129964935156996597619699669b71d699679f81169a68a391064069a69d865a6aaaadc65a6baebd065b6cb2cd465b6db6dd865b6ebaedc65b6fbefd065c70c20d475c71c61d875c72ca2dc75c73ce3d071d00⟩,
  ⟨["iso88598"], .codepage 40
    0xa00020ca28a49462ca29a8a472cd2aacb4e2ca2bb0c422cb2cb4d462cb2db8e472cf2ebcf4e20b00000000000000000000000000000000000000000000000000000000000000000000000000000080c4420e496491461e8964924a2ec964934e3e096594524e496595565e8965965a6ec925000034ec3000⟩,
  ⟨["iso88599"], .codepage 52
    0x1c4523cd34d45463cd35d864a3cd36dcb034d537e08423ce38e49463ce39e8a4a3ce3aecb4e3ce3b1dc523cf3cf4d463cf3df8e4a3cf3efcb444d53f⟩,
  ⟨["iso885910"], .codepage 40
    0xa010241148289904d329354154d55672b5f25550b014345148299d14d32d364564155773450c9650000523cc30c414638c4a0c2563d1321435e3cc33d0f434d434d454634d57d89ca5cd36dc74e3cd37018523ce38e49463ce4a0da573d13a15b5e3ce3bf0f844d43cf4d4638f57f8a0a5cf3efcf4e38f4c⟩,
  ⟨["iso885911", "tis620"], .codepage 40
    0xa078fa29a8a18a3a2aa9a59a7a2aaaa9aaba2aabadbafa2aacb1ca3a2badb5da7a2baeb9eaba2bafbdfafa2bb0c10a3b2cb1c51a7b2cb2c92abb2cb3cd3afb2cb4d14a3b2db5d55a7b2d0000000000b6d96abb2db7dd7afb2db8e18a3b2eb9e59a7b2ebae9aabb2ebbedbafb2ebcf1ca3b2fbd0000000000⟩,
  ⟨["iso885913"], .codepage 40
    0xa05c2cca28a4606cca29d8a4b2d42aacb4e28a31b0c422cb2c16d762cb2df8e4c2d42ebcf4e28b3904a9049041c4146391440c25e3164520c184524d55edd4d334435563cd3567e5f4d457dcc025d73705ad14d041e49473d1440da5f3564521c594924d56f1e4d33c44d563cf3d68e9041558fcc43517c5⟩,
  ⟨["iso885914"], .codepage 40
    0xa0d46bef280a2d74ef2903a75230be09b7e24a5bf9eaebd147fbf26b4bbf04fb6bf0bf0a1f8c30c0c00423cc30c41463cc31c824a3cc32cc34e3cc33694523cd34d454634dc0d864a3cd36dc74b3d637e08423ce38e49463ce39e8a4a3ce3aecb4e3ce3b6ac523cf3cf4d4638fc0f8e4a3cf3efcf4c3d63f⟩,
  ⟨["iso885915", "latin9"], .codepage 41
    0x249752d52956a5a2ca2aacb4e2ca2bb0c422cb2c72d562cb2d73e5a2cb2e4721d5d62fc00423cc30c41463cc31c824a3cc32cc34e3cc33d04423cd34d45463cd35d864a3cd36dc74e3cd37e08423ce38e49463ce39e8a4a3ce3aecb4e3ce3bf0c423cf3cf4d463cf3df8e4a3cf3efcf4e3cf3f⟩,
  ⟨["iso885916"], .codepage 40
    0xa01054504e24635cd52956a592d72a6eb5f2165cb0c4c2904e725d6ccb2d7335a4d72e4721d5565cc004238c40c41864cc31c824a3cc32cc34e3cc3310ed24cd34d41465cd536565a3cd36dc58b4d737e08423ce40e41c64ce39e8a4a3ce3aecb4e3ce3b11f124cf3cf418650f5466e5a3cf3efc5cc4d73f⟩,
  ⟨["cp1250", "windows1250"], .codepage 32
    0x240350310018739cb1c600745c95c74f6525975b004c4cb1c5176ffc30c4009c6cd5c7506935d75ba0f8f5574ea41064ca29a8a432d52aacb4e20a5cb0c412984eb4d462cb2db81444d52e370d86535c4905238c40c4cc64d0310c2563d1321835e38c4310edf4d334d41465cd354d8da54d59dc7473d5374a8523ce40e4d074d0390da573d13a19b5e3ce4311f104d43cf41865cf3d4e91a58f59fcf4831560⟩,
  ⟨["cp1251", "windows1251"], .codepage 32
    0xd24d57718818739cb1c624779c9dc7da71b79d77204e4cb1c5176ffc30c4009c7ce2c728aa98228ba074b72276a4b468ca29d1a542dd2aacb4e2ca75b0c4621d892ed662cb2d1f9a2ce22e2656376289df81179e78e391579e79e7a1979e7aebb1d79e7befc1179f7cf3d1579f7df7e1979f7efbf1d79f7fff0118a080031258a081072298a0820b32d8a0830f4218a184135258a185176298a1861b72d8a187⟩,
  ⟨["cp1252", "windows1252"], .codepage 32
    0x240350315d18739cb1c67d755c95c74701201700004c4cb1c5176ffc30c4829d6cd5c7480130575ba08422ca28a49462ca29a8a4a2ca2aacb4e2ca2bb0c422cb2cb4d462cb2db8e4a2cb2ebcf4e2cb2fc00423cc30c41463cc31c824a3cc32cc34e3cc33d04423cd34d45463cd35d864a3cd36dc74e3cd37e08423ce38e49463ce39e8a4a3ce3aecb4e3ce3bf0c423cf3cf4d463cf3df8e4a3cf3efcf4e3cf3f⟩,
  ⟨["cp1253", "windows1253"], .codepage 32
    0x240350315d18739cb1c600740c80c70000000000004c4cb1c5176ffc30c4009c0cc0c70000000000a02cc6d828a49462ca29a8a402c02aacb4e24ac4b0c422cb2c8ad562cb2d8d39f6d82e90f5129964935156996597619699669b71d699679f81169a68a391064069a69d865a6aaaadc65a6baebd065b6cb2cd465b6db6dd865b6ebaedc65b6fbefd065c70c20d475c71c61d875c72ca2dc75c73ce3d071d00⟩,
  ⟨["cp1254", "windows1254"], .codepage 32
    0x240350315d18739cb1c67d755c95c74701000000004c4cb1c5176ffc30c4829d6cd5c7480100405ba08422ca28a49462ca29a8a4a2ca2aacb4e2ca2bb0c422cb2cb4d462cb2db8e4a2cb2ebcf4e2cb2fc00423cc30c41463cc31c824a3cc32cc34e3cc331c4523cd34d45463cd35d864a3cd36dcb034d537e08423ce38e49463ce39e8a4a3ce3aecb4e3ce3b1dc523cf3cf4d463cf3df8e4a3cf3efcb444d53f⟩,
  ⟨["cp1255", "windows1255"], .codepage 32
    0x240350315d18739cb1c67d750c80c70000000000004c4cb1c5176ffc30c4829d0cc0c70000000000a08422ca28229762ca29a8a472cd2aacb4e2ca2bb0c422cb2cb4d462cb2db8e472cf2ebcf4e2cb2f2fc218a38c33d258a38d37e208408e3aeec8638f3efe0864905d7af9259861020000000000000000420e496491461e8964924a2ec964934e3e096594524e496595565e8965965a6ec925000034ec3000⟩,
  ⟨["cp1256", "windows1256"], .codepage 32
    0x244f5a315d18739cb1c67d752ca9c747517a69a5994e4cb1c5176ffc30c4989e6ce9c7482dccb0a6a08829ca28a49462ca29a8a4b2e92aacb4e2ca2bb0c422cb2cb4d462cb2db8e432e62ebcf4e20b999c9669e69968a6a9e69a6cb6e9e69b70c629e79c74d669e79d78e6a9e7357bf2d9a79f7f021aa8a0e00c2a0ea1851a7ae839e8a4a3ce3a8826eace3b8a2eca68a3f438fae83d90e613e93efc34ec70a7⟩,
  ⟨["cp1257", "windows1257"], .codepage 32
    0x240350310018739cb1c600740c80c700a0e2172e004c4cb1c5176ffc30c4009c0cc0c700bc121800a00020ca28a40060ca29d8a4b2d42aacb4e28a31b0c422cb2cb4d462cb2df8e4c2d42ebcf4e28b3904a9049041c4146391440c25e3164520c184524d55edd4d334435563cd3567e5f4d457dcc025d73705ad14d041e49473d1440da5f3564521c594924d56f1e4d33c44d563cf3d68e9041558fcc4351760⟩,
  ⟨["cp1258", "windows1258"], .codepage 32
    0x240350315d18739cb1c67d750c80c74701000000004c4cb1c5176ffc30c4829d0cc0c7480100405ba08422ca28a49462ca29a8a4a2ca2aacb4e2ca2bb0c422cb2cb4d462cb2db8e4a2cb2ebcf4e2cb2fc004238c40c41463cc31c824a3cc328435e3cc33104573d834d4d465cd35d864a3cd36dcdc65d837e08423ce40e49463ce39e8a4a3ce3a85b5e3ce3b11c583d83cf4d865cf3df8e4a3cf3efce035f23f⟩,
  ⟨["koi8r"], .codepage 32
    0x33d35cb3cd37e39cb3ce3bf3dcf3d65c77edf5d760872d76cc63a39c32cb2ebf0c8accb0c872cb3d3eff0cf487410b3d34d1451b7d34d2492bbd34d34d3bfd747450472df5d454576df5d55867ad752a1dfe076085031238a180141e8860820a2ec860830e7af82084114a5860801b6a68e0851c62686186fd7d075e7de391379f78f49d875e7aeaadc75e7beef9f71e7cf1c9575e78fbe967de7dfce1675f7e⟩,
  ⟨["koi8u"], .codepage 32
    0x33d35cb3cd37e39cb3ce3bf3dcf3d65c77edf5d760872d76cc63a39c32cb2ebf0c8accb0c872cb3d3eff0cf487220a4d6289451b7d34d249bbb834d34d3bfd7474d4456ddd7554576df5d558b7a8752a1dfe076085031238a180141e8860820a2ec860830e7af82084114a5860801b6a68e0851c62686186fd7d075e7de391379f78f49d875e7aeaadc75e7beef9f71e7cf1c9575e78fbe967de7dfce1675f7e⟩,
  ⟨["cp437"], .codepage 32
    0xc7f0938e38e48053ce39eaac83ce3beeb0434c31c998630c3df6c8b34f3eff58c38d28a39412325de1b4338f3ef144a38a2ebfc0cc4a2fbc84b2ca2e60872d36cd3a3f0d35d14347fd73d14b2b9db4cd37f3bc73ce33f7cc74d3480b7d35d54efbac75d5564b3df5d146031d74d658e35c73d75c7bfdf5d6b37d639970a515578b71a86db69a6d2a2377dbca2dc7f2b2cb31cb7c0fcbb0a07c4bca20cb323628⟩,
  ⟨["cp850"], .codepage 32
    0xc7f0938e38e48053ce39eaac83ce3beeb0434c31c998630c3df6c8b34f3eff58c30d3ea360730d5de1b4338f3ef144a38a2ebfb8c24a2fbc84b2ca2e60872d36cd3a07230c30a944fd73d14b8b528acd37f3bc73ce33f73cce30480b7d35d54efbac3529f040a3cc32c8b4d48c33cfe05c73d75c9bc2ccd6d37c438d34f554538b3fde68b34d36fd74f30a2dadc422b12fb69c720f2eb0a0724b2eb3c8323628⟩,
  ⟨["cp866"], .codepage 32
    0xdf81179e78e391579e79e7a1979e7aebb1d79e7befc1179f7cf3d1579f7df7e1979f7efbf1d79f7fff0118a080031258a081072298a0820b32d8a08360872d36cd3a3f0d35d14347fd73d14b2b9db4cd37f3bc73ce33f7cc74d3480b7d35d54efbac75d5564b3df5d146031d74d658e35c73d75c7bfdf5d60f4218a184135258a185176298a1861b72d8a187d17d489d88d795d8dd8ab0a07c4bca2693323628⟩,
  ⟨["ibm1047", "cp1047"], .codepage 1
    0x9c2460c81f9734e2c8020c34e0c003104420c1049d1482c021186420c9231c74e0c107800422c820842870c1068824a2c8228c1460c001904462c12494546209019864a2c9261454e089062080220e39e084334e39e7c4238a0b3ca0b0021f26a4a3ce3ae8b4e3ce3bec7c1302092aa4b083172dbc200c31c004334c31c744630a0b257ce1c30ff824a3cc32c834e3cc33cc80a1c308409cd08308d88421c618649461c61968a4b1ca2ef0f4e34f2cb0a8b1061b6db8f1061c71c8a18a2ee6e0620c29b5f831071d75d871071e79e811ca2fd06ce18d2bac8c52ca2da99c620b2fbdf8d20d2aaf7441cb357b0421c410441461c4114824d10a3df6c8334f3d7d28b104134d38f10414514891cb3efce4a3cf3f5cdc33051555587105165968210b35d648334d3530c420c30c34d460c30d38e430cb36dc64a3cd27⟩]

def legacyCharsRows : List ℕ := [
0x100010101020103010401050106010701080109010a010b010c010d010e010f01100111011201130116011701180119011a011b011c011d011e011f0120012101220123,
0x12401250126012701280129012a012b012e012f01300131013401350136013701380139013a013b013c013d013e01410142014301440145014601470148014a014b014c,
0x14d0150015101520153015401550156015701580159015a015b015c015d015e015f0160016101620163016401650166016701680169016a016b016c016d016e016f0170,
0x17101720173017401750176017701780179017a017b017c017d017e019201a001a101af01b002180219021a021b02c602c702d802d902db02dc02dd0300030103030309,
0x323037a03840385038603880389038a038c038e038f0390039103920393039403950396039703980399039a039b039c039d039e039f03a003a103a303a403a503a603a7,
0x3a803a903aa03ab03ac03ad03ae03af03b003b103b203b303b403b503b603b703b803b903ba03bb03bc03bd03be03bf03c003c103c203c303c403c503c603c703c803c9,
0x3ca03cb03cc03cd03ce040104020403040404050406040704080409040a040b040c040e040f0410041104120413041404150416041704180419041a041b041c041d041e,
0x41f0420042104220423042404250426042704280429042a042b042c042d042e042f0430043104320433043404350436043704380439043a043b043c043d043e043f0440,
0x44104420443044404450446044704480449044a044b044c044d044e044f045104520453045404550456045704580459045a045b045c045e045f0490049105b005b105b2,
0x5b305b405b505b605b705b805b905bb05bc05bd05be05bf05c005c105c205c305d005d105d205d305d405d505d605d705d805d905da05db05dc05dd05de05df05e005e1,
0x5e205e305e405e505e605e705e805e905ea05f005f105f205f305f4060c061b061f062106220623062406250626062706280629062a062b062c062d062e062f06300631,
0x6320633063406350636063706380639063a0640064106420643064406450646064706480649064a064b064c064d064e064f0650065106520679067e0686068806910698,
0x6a906af06ba06be06c106d20e010e020e030e040e050e060e070e080e090e0a0e0b0e0c0e0d0e0e0e0f0e100e110e120e130e140e150e160e170e180e190e1a0e1b0e1c,
0xe1d0e1e0e1f0e200e210e220e230e240e250e260e270e280e290e2a0e2b0e2c0e2d0e2e0e2f0e300e310e320e330e340e350e360e370e380e390e3a0e3f0e400e410e42,
0xe430e440e450e460e470e480e490e4a0e4b0e4c0e4d0e4e0e4f0e500e510e520e530e540e550e560e570e580e590e5a0e5b1e021e031e0a1e0b1e1e1e1f1e401e411e56,
0x1e571e601e611e6a1e6b1e801e811e821e831e841e851ef21ef3200c200d200e200f201320142015201720182019201a201c201d201e202020212022202620302039203a,
0x207f20a720aa20ab20ac20af211621222219221a221e2229224822612264226523102320232125002502250c251025142518251c2524252c2534253c2550255125522553,
0x255425552556255725582559255a255b255c255d255e255f2560256125622563256425652566256725682569256a256b256c258025842588258c259025912592259325a0]

def jis0208Rows : List ℕ := [
0x300030013002ff0cff0e30fbff1aff1bff1fff01309b309c00b4ff4000a8ff3effe3ff3f30fd30fe309d309e30034edd30053006300730fc20152010ff0f005c301c2016ff5c2026202520182019201c201dff08ff0930143015ff3bff3dff5bff5d30083009300a300b300c300d300e300f30103011ff0b221200b100d700f7ff1d2260ff1cff1e22662267221e22342642264000b0203220332103ffe5ff0400a200a3ff05ff03ff06ff0aff2000a72606260525cb25cf25ce25c7,
0x25c625a125a025b325b225bd25bc203b301221922190219121933013000000000000000000000000000000000000000000002208220b2286228722822283222a2229000000000000000000000000000000002227222800ac21d221d42200220300000000000000000000000000000000000000000000222022a523122202220722612252226a226b221a223d221d2235222b222c0000000000000000000000000000212b2030266f266d266a2020202100b6000000000000000025ef,
0xff10ff11ff12ff13ff14ff15ff16ff17ff18ff190000000000000000000000000000ff21ff22ff23ff24ff25ff26ff27ff28ff29ff2aff2bff2cff2dff2eff2fff30ff31ff32ff33ff34ff35ff36ff37ff38ff39ff3a000000000000000000000000ff41ff42ff43ff44ff45ff46ff47ff48ff49ff4aff4bff4cff4dff4eff4fff50ff51ff52ff53ff54ff55ff56ff57ff58ff59ff5a0000000000000000,
0x304130423043304430453046304730483049304a304b304c304d304e304f3050305130523053305430553056305730583059305a305b305c305d305e305f3060306130623063306430653066306730683069306a306b306c306d306e306f3070307130723073307430753076307730783079307a307b307c307d307e307f3080308130823083308430853086308730883089308a308b308c308d308e308f309030913092309300000000000000000000000000000000000000000000,
0x30a130a230a330a430a530a630a730a830a930aa30ab30ac30ad30ae30af30b030b130b230b330b430b530b630b730b830b930ba30bb30bc30bd30be30bf30c030c130c230c330c430c530c630c730c830c930ca30cb30cc30cd30ce30cf30d030d130d230d330d430d530d630d730d830d930da30db30dc30dd30de30df30e030e130e230e330e430e530e630e730e830e930ea30eb30ec30ed30ee30ef30f030f130f230f330f430f530f600000000000000000000000000000000,
0x39103920393039403950396039703980399039a039b039c039d039e039f03a003a103a303a403a503a603a703a803a90000000000000000000000000000000003b103b203b303b403b503b603b703b803b903ba03bb03bc03bd03be03bf03c003c103c303c403c503c603c703c803c900000000000000000000000000000000000000000000000000000000000000000000000000000000000000000000000000000000000000000000000000000000000000000000000000000000,
0x4100411041204130414041504010416041704180419041a041b041c041d041e041f0420042104220423042404250426042704280429042a042b042c042d042e042f00000000000000000000000000000000000000000000000000000000000004300431043204330434043504510436043704380439043a043b043c043d043e043f0440044104420443044404450446044704480449044a044b044c044d044e044f0000000000000000000000000000000000000000000000000000,
0x25002502250c251025182514251c252c25242534253c25012503250f2513251b251725232533252b253b254b2520252f25282537253f251d253025252538254200000000000000000000000000000000000000000000000000000000000000000000000000000000000000000000000000000000000000000000000000000000000000000000000000000000000000000000000000000000000000000000000000000000000000000000000000000000000000000000000000000000,
0x0,
0x0,
0x0,
0x0,
0x0,
0x0,
0x0,
0x4e9c55165a03963f54c0611b632859f690228475831c7a5060aa63e16e2565ed846682a69bf56893572765a162715b9b59d0867b98f47d627dbe9b8e62167c9f88b75b895eb563096697684895c7978d674f4ee54f0a4f4d4f9d504956f2593759d45a015c0960df610f61706613690570ba754f757079fb7dad7def80c3840e88638b029055907a533b4e954ea557df80b290c178ef4e0058f16ea290387a328328828b9c2f5141537054bd54e156e059fb5f1598f26deb80e4852d,
0x9662967096a097fb540b53f35b8770cf7fbd8fc296e8536f9d5c7aba4e11789381fc6e26561855046b1d851a9c3b59e553a96d6674dc958f56424e91904b96f2834f990c53e155b65b305f71662066f368046c386cf36d29745b76c87a4e983482f1885b8a6092ed6db275ab76ca99c560a68b018d8a95b2698e53ad51865712583059445bb45ef6602863a963f46cbf6f14708e7114715971d5733f7e01827682d185979060925b9d1b586965bc6c5a752551f9592e59655f805fdc,
0x62bc65fa6a2a6b276bb4738b7fc189569d2c9d0e9ec45ca16c96837b51045c4b61b681c6687672614e594ffa537860696e297a4f97f34e0b53164eee4f554f3d4fa14f7352a053ef5609590f5ac15bb65be179d16687679c67b66b4c6cb3706b73c2798d79be7a3c7b8782b182db8304837783ef83d387668ab256298ca88fe6904e971e868a4fc45ce862117259753b81e582bd86fe8cc096c5991399d54ecb4f1a89e356de584a58ca5efb5feb602a6094606261d0621262d06539,
0x9b41666668b06d777070754c76867d7582a587f9958b968e8c9d51f152be591654b35bb35d16616869826daf788d84cb88578a7293a79ab86d6c99a886d957a367ff86ce920e5283568754045ed362e164b9683c68386bbb737278ba7a6b899a89d28d6b8f0390ed95a3969497695b665cb3697d984d984e639b7b206a2b6a7f68b69c0d6f5f5272559d607062ec6d3b6e076ed1845b89108f444e149c3953f6691b6a3a9784682a515c7ac384b291dc938c565b9d28682283058431,
0x7ca5520882c574e64e7e4f8351a05bd2520a52d852e75dfb559a582a59e65b8c5b985bdb5e725e7960a3611f616361be63db656267d1685368fa6b3e6b536c576f226f976f4574b0751876e3770b7aff7ba17c217de97f367ff0809d8266839e89b38acc8cab908494519593959195a2966597d3992882184e38542b5cb85dcc73a9764c773c5ca97feb8d0b96c19811985498584f014f0e5371559c566857fa59475b095bc45c905e0c5e7e5fcc63ee673a65d765e2671f68cb68c4,
0x6a5f5e306bc56c176c7d757f79485b637a007d005fbd898f8a188cb48d778ecc8f1d98e29a0e9b3c4e80507d510059935b9c622f628064ec6b3a72a0759179477fa987fb8abc8b7063ac83ca97a05409540355ab68546a588a70782767759ecd53745ba2811a865090064e184e454ec74f1153ca54385bae5f1360256551673d6c426c726ce3707874037a767aae7b087d1a7cfe7d6665e7725b53bb5c455de862d262e063196e20865a8a318ddd92f86f0179a69b5a4ea84eab4eac,
0x4f9b4fa050d151477af6517151f653545321537f53eb55ac58835ce15f375f4a602f6050606d631f65596a4b6cc172c272ed77ef80f881058208854e90f793e197ff99579a5a4ef051dd5c2d6681696d5c4066f26975738968507c8150c552e457475dfe932665a46b236b3d7434798179bd7b4b7dca82b983cc887f895f8b398fd191d1541f92804e5d503653e5533a72d7739677e982e68eaf99c699c899d25177611a865e55b07a7a50765bd3904796854e326adb91e75c515c48,
0x63987a9f6c9397748f617aaa718a96887c8268177e706851936c52f2541b85ab8a137fa48ecd90e15366888879414fc250be521151445553572d73ea578b59515f625f8460756176616761a963b2643a656c666f68426e1375667a3d7cfb7d4c7d997e4b7f6b830e834a86cd8a088a638b668efd981a9d8f82b88fce9be85287621f64836fc09699684150916b206c7a6f547a747d5088408a2367084ef6503950265065517c5238526355a7570f58055acc5efa61b261f862f36372,
0x691c6a29727d72ac732e7814786f7d79770c80a9898b8b198ce28ed290639375967a98559a139e785143539f53b35e7b5f266e1b6e90738473fe7d4382378a008afa96504e4e500b53e4547c56fa59d15b645df15eab5f276238654567af6e5672d07cca88b480a180e183f0864e8a878de8923796c798679f134e944e924f0d53485449543e5a2f5f8c5fa1609f68a76a8e745a78818a9e8aa48b7791904e5e9bc94ea44f7c4faf501950165149516c529f52b952fe539a53e35411,
0x540e5589575157a2597d5b545b5d5b8f5de55de75df75e785e835e9a5eb75f186052614c629762d863a7653b6602664366f4676d6821689769cb6c5f6d2a6d696e2f6e9d75327687786c7a3f7ce07d057d187d5e7db18015800380af80b18154818f822a8352884c88618b1b8ca28cfc90ca91759271783f92fc95a4964d980599999ad89d3b525b52ab53f7540858d562f76fe08c6a8f5f9eb9514b523b544a56fd7a4091779d609ed273446f09817075115ffd60da9aa872db8fbc,
0x6b6498034eca56f0576458be5a5a606861c7660f6606683968b16df775d57d3a826e9b424e9b4f5053c955065d6f5de65dee67fb6c99747378028a50939688df57505ea7632b50b550ac518d670054c9585e59bb5bb05f69624d63a1683d6b736e08707d91c7728078157826796d658e7d3083dc88c18f09969b5264572867507f6a8ca151b45742962a583a698a80b454b25d0e57fc78959dfa4f5c524a548b643e6628671467f57a847b567d22932f685c9bad7b395319518a5237,
0x5bdf62f664ae64e6672d6bba85a996d176909bd6634c93069bab76bf66524e09509853c25c7160e864926563685f71e673ca75237b977e8286958b838cdb9178991065ac66ab6b8b4ed54ed44f3a4f7f523a53f853f255e356db58eb59cb59c959ff5b505c4d5e025e2b5fd7601d6307652f5b5c65af65bd65e8679d6b626b7b6c0f7345794979c17cf87d197d2b80a2810281f389968a5e8a698a668a8c8aee8cc78cdc96cc98fc6b6f4e8b4f3c4f8d51505b575bfa614863016642,
0x6b216ecb6cbb723e74bd75d478c1793a800c803381ea84948f9e6c509e7f5f0f8b589d2b7afa8ef85b8d96eb4e0353f157f759315ac95ba460896e7f6f0675be8cea5b9f85007be0507267f4829d5c61854a7e1e820e51995c0463688d66659c716e793e7d1780058b1d8eca906e86c790aa501f52fa5c3a6753707c7235914c91c8932b82e55bc25f3160f94e3b53d65b88624b67316b8a72e973e07a2e816b8da391529996511253d7546a5bff63886a397dac970056da53ce5468,
0x5b975c315dde4fee610162fe6d3279c079cb7d427e4d7fd281ed821f8490884689728b908e748f2f9031914b916c96c6919c4ec04f4f514553415f93620e67d46c416e0b73637e2691cd928353d459195bbf6dd1795d7e2e7c9b587e719f51fa88538ff04fca5cfb662577ac7ae3821c99ff51c65faa65ec696f6b896df36e966f6476fe7d145de190759187980651e6521d6240669166d96e1a5eb67dd27f7266f885af85f78af852a953d959735e8f5f90605592e4966450b7511f,
0x52dd5320534753ec54e8554655315617596859be5a3c5bb55c065c0f5c115c1a5e845e8a5ee05f70627f628462db638c63776607660c662d6676677e68a26a1f6a356cbc6d886e096e58713c7126716775c77701785d7901796579f07ae07b117ca77d39809683d6848b8549885d88f38a1f8a3c8a548a738c618cde91a49266937e9418969c97984e0a4e084e1e4e575197527057ce583458cc5b225e3860c564fe676167566d4472b675737a6384b88b7291b89320563157f498fe,
0x62ed690d6b9671ed7e548077827289e698df87558fb15c3b4f384fe14fb555075a205bdd5be95fc3614e632f65b0664b68ee699b6d786df1753375b9771f795e79e67d3381e382af85aa89aa8a3a8eab8f9b903291dd97074eba4ec15203587558ec5c0b751a5c3d814e8a0a8fc59663976d7b258acf9808916256f353a89017543957825e2563a86c34708a77617c8b7fe088709042915493109318968f745e9ac45d075d69657067a28da896db636e6749691983c5981796c088fe,
0x6f84647a5bf84e16702c755d662f51c4523652e259d35f8160276210653f6574661f667468f268166b636e057272751f76db7cbe805658f088fd897f8aa08a938acb901d91929752975965897a0e810696bb5e2d60dc621a65a56614679077f37a4d7c4d7e3e810a8cac8d648de18e5f78a9520762d963a5644262988a2d7a837bc08aac96ea7d76820c87494ed95148534353605ba35c025c165ddd6226624764b0681368346cc96d456d1767d36f5c714e717d65cb7a7f7bad7dda,
0x7e4a7fa8817a821b823985a68a6e8cce8df59078907792ad929195839bae524d55846f387136516879857e5581b37cce564c58515ca863aa66fe66fd695a72d9758f758e790e795679df7c977d207d4486078a34963b90619f2050e7527553cc53e2500955aa58ee594f723d5b8b5c64531d60e360f3635c6383633f63bb64cd65e966f95de369cd69fd6f1571e54e8975e976f87a937cdf7dcf7d9c806183498358846c84bc85fb88c58d709001906d9397971c9a1250cf5897618e,
0x81d385358d0890204fc3507452475373606f6349675f6e2c8db3901f4fd75c5e8cca65cf7d9a53528896517663c35b585b6b5c0a640d6751905c4ed6591a592a6c708a51553e581559a560f0625367c182356955964099c49a284f5358065bfe80105cb15e2f5f856020614b623466ff6cf06ede80ce817f82d4888b8cb89000902e968a9edb9bdb4ee353f059277b2c918d984c9df96edd7027535355445b856258629e62d36ca26fef74228a1794386fc18afe833851e786f853ea,
0x53e94f4690548fb0596a81315dfd7aea8fbf68da8c3772f89c486a3d8ab04e3953585606576662c563a265e66b4e6de16e5b70ad77ed7aef7baa7dbb803d80c686cb8a95935b56e358c75f3e65ad66966a806bb575378ac7502477e557305f1b6065667a6c6075f47a1a7f6e81f48718904599b37bc9755c7af97b5184c4901079e97a9283365ae177404e2d4ef25b995fe062bd663c67f16ce8866b88778a3b914e92f399d06a177026732a82e784578caf4e01514651cb558b5bf5,
0x5e165e335e815f145f355f6b5fb461f2631166a2671d6f6e7252753a773a80748139817887768abf8adc8d858df3929a957798029ce552c5635776f467156c8873cd8cc393ae96736d25589c690e69cc8ffd939a75db901a585a680263b469fb4f436f2c67d88fbb85267db49354693f6f70576a58f75b2c7d2c722a540a91e39db44ead4f4e505c507552438c9e544858245b9a5e1d5e955ead5ef75f1f608c62b5633a63d068af6c407887798e7a0b7de082478a028ae68e449013,
0x90b8912d91d89f0e6ce5645864e265756ef476847b1b906993d16eba54f25fb964a48f4d8fed92445178586b59295c555e976dfb7e8f751c8cbc8ee2985b70b94f1d6bbf6fb1753096fb514e54105835585759ac5c605f926597675c6e21767b83df8ced901490fd934d7825783a52aa5ea6571f597460125012515a51ac51cd520055105854585859575b955cf65d8b60bc6295642d6771684368bc68df76d76dd86e6f6d9b706f71c85f5375d879777b497b547b527cd67d715230,
0x8463856985e48a0e8b048c468e0f9003900f94199676982d9a3095d850cd52d5540c58025c0e61a7649e6d1e77b37ae580f48404905392855ce09d07533f5f975fb36d9c7279776379bf7be46bd272ec8aad68036a6151f87a8169345c4a9cf682eb5bc59149701e56785c6f60c765666c8c8c5a90419813545166c7920d594890a351854e4d51ea85998b0e7058637a934b696299b47e047577535769608edf96e36c5d4e8c5c3c5f108fe953028cd1808986795eff65e54e735165,
0x59825c3f97ee4efb598a5fcd8a8d6fe179b079625be78471732b71b15e745ff5637b649a71c37c984e435efc4e4b57dc56a260a96fc37d0d80fd813381bf8fb2899786a45df4628a64ad898767776ce26d3e743678345a467f7582ad99ac4ff35ec362dd63926557676f76c3724c80cc80ba8f29914d500d57f95a9268856973716472fd8cb758f28ce0966a9019877f79e477e784294f2f5265535a62cd67cf6cca767d7b947c95823685848feb66dd6f2072067e1b83ab99c19ea6,
0x51fd7bb178727bb880877b486ae85e61808c75517560516b92626e8c767a91979aea4f107f70629c7b4f95a59ce9567a585986e496bc4f345224534a53cd53db5e06642c6591677f6c3e6c4e724872af73ed75547e41822c85e98ca97bc491c67169981298ef633d6669756a76e478d0854386ee532a5351542659835e875f7c60b26249627962ab65906bd46ccc75b276ae789179d87dcb7f7780a588ab8ab98cbb907f975e98db6a0b7c3850995c3e5fae67876bd8743577097f8e,
0x9f3b67ca7a175339758b9aed5f66819d83f180985f3c5fc575627b46903c686759eb5a9b7d10767e8b2c4ff55f6a6a196c376f0274e2796888688a558c795edf63cf75c579d282d7932892f2849c86ed9c2d54c15f6c658c6d5c70158ca78cd3983b654f74f64e0d4ed857e0592b5a665bcc51a85e035e9c60166276657765a7666e6d6e72367b268150819a82998b5c8ca08ce68d74961c96444fae64ab6b66821e8461856a90e85c01695398a8847a85574f0f526f5fa95e45670d,
0x798f8179890789866df55f1762556cb84ecf72699b925206543b567458b361a4626e711a596e7c897cde7d1b96f06587805e4e194f75517558405e635e735f0a67c44e26853d9589965b7c73980150fb58c1765678a7522577a585117b86504f590972477bc77de88fba8fd4904d4fbf52c95a295f0197ad4fdd821792ea570363556b69752b88dc8f147a4252df58936155620a66ae6bcd7c3f83e950234ff853055446583159495b9d5cf05cef5d295e9662b16367653e65b9670b,
0x6cd56ce170f978327e2b80de82b3840c84ec870289128a2a8c4a90a692d298fd9cf39d6c4e4f4ea1508d5256574a59a85e3d5fd85fd9623f66b4671b67d068d251927d2180aa81a88b008c8c8cbf927e96325420982c531750d5535c58a864b26734726777667a4691e652c36ca16b8658005e4c5954672c7ffb51e176c6646978e89b549ebb57cb59b96627679a6bce54e969d95e55819c67959baa67fe9c52685d4ea64fe353c862b9672b6cab8fc44fad7e6d9ebf4e0761626e80,
0x6f2b85135473672a9b455df37b955cac5bc6871c6e4a84d17a14810859997c8d6c11772052d959227121725f77db97279d61690b5a7f5a1851a5540d547d660e76df8ff792989cf459ea725d6ec5514d68c97dbf7dec97629eba64786a21830259845b5f6bdb731b76f27db280178499513267289ed976ee676252ff99055c24623b7c7e8cb0554f60b67d0b958053014e5f51b6591c723a803691ce5f2577e253845f797d0485ac8a338e8d975667f385ae9453610961086cb97652,
0x8aed8f38552f4f51512a52c753cb5ba55e7d60a0618263d6670967da6e676d8c733673377531795088d58a98904a909190f596c4878d59154e884f594e0e8a898f3f981050ad5e7c59965bb95eb863da63fa64c166dc694a69d86d0b6eb6719475287aaf7f8a8000844984c989818b218e0a9065967d990a617e62916b326c836d747fcc7ffc6dc07f8587ba88f8676583b1983c96f76d1b7d61843d916a4e7153755d506b046feb85cd862d89a75229540f5c65674e68a874067483,
0x75e288cf88e191cc96e296785f8b73877acb844e63a0756552896d416e9c74097559786b7c9296867adc9f8d4fb6616e65c5865c4e864eae50da4e2151cc5bee659968816dbc731f764277ad7a1c7ce7826f8ad2907c91cf96759818529b7dd1502b539867976dcb71d0743381e88f2a96a39c579e9f746058416d997d2f985e4ee44f364f8b51b752b15dba601c73b2793c82d3923496b796f6970a9e979f6266a66b74521752a370c888c25ec9604b61906f2371497c3e7df4806f,
0x84ee9023932c54429b6f6ad370898cc28def973252b45a415eca5f046717697c69946d6a6f0f726272fc7bed8001807e874b90ce516d9e937984808b93328ad6502d548c8a716b6a8cc4810760d167a09df24e994e989c108a6b85c1856869006e7e789781550000000000000000000000000000000000000000000000000000000000000000000000000000000000000000000000000000000000000000000000000000000000000000000000000000000000000000000000000000,
0x5f0c4e104e154e2a4e314e364e3c4e3f4e424e564e584e824e858c6b4e8a82125f0d4e8e4e9e4e9f4ea04ea24eb04eb34eb64ece4ecd4ec44ec64ec24ed74ede4eed4edf4ef74f094f5a4f304f5b4f5d4f574f474f764f884f8f4f984f7b4f694f704f914f6f4f864f9651184fd44fdf4fce4fd84fdb4fd14fda4fd04fe44fe5501a50285014502a502550054f1c4ff650215029502c4ffe4fef50115006504350476703505550505048505a5056506c50785080509a508550b450b2,
0x50c950ca50b350c250d650de50e550ed50e350ee50f950f5510951015102511651155114511a5121513a5137513c513b513f51405152514c515451627af85169516a516e5180518256d8518c5189518f519151935195519651a451a651a251a951aa51ab51b351b151b251b051b551bd51c551c951db51e0865551e951ed51f051f551fe5204520b5214520e5227522a522e52335239524f5244524b524c525e5254526a527452695273527f527d528d529452925271528852918fa8,
0x8fa752ac52ad52bc52b552c152cd52d752de52e352e698ed52e052f352f552f852f9530653087538530d5310530f5315531a5323532f5331533353385340534653454e175349534d51d6535e5369536e5918537b53775382539653a053a653a553ae53b053b653c37c1296d953df66fc71ee53ee53e853ed53fa5401543d5440542c542d543c542e54365429541d544e548f5475548e545f5471547754705492547b5480547654845490548654c754a254b854a554ac54c454c854a8,
0x54ab54c254a454be54bc54d854e554e6550f551454fd54ee54ed54fa54e2553955405563554c552e555c55455556555755385533555d5599558054af558a559f557b557e5598559e55ae557c558355a9558755a855da55c555df55c455dc55e455d4561455f7561655fe55fd561b55f9564e565071df5634563656325638566b5664562f566c566a56865680568a56a05694568f56a556ae56b656b456c256bc56c156c356c056c856ce56d156d356d756ee56f9570056ff57045709,
0x5708570b570d57135718571655c7571c572657375738574e573b5740574f576957c057885761577f5789579357a057b357a457aa57b057c357c657d457d257d3580a57d657e3580b5819581d587258215862584b58706bc05852583d5879588558b9589f58ab58ba58de58bb58b858ae58c558d358d158d758d958d858e558dc58e458df58ef58fa58f958fb58fc58fd5902590a5910591b68a65925592c592d59325938593e7ad259555950594e595a5958596259605967596c5969,
0x59785981599d4f5e4fab59a359b259c659e859dc598d59d959da5a255a1f5a115a1c5a095a1a5a405a6c5a495a355a365a625a6a5a9a5abc5abe5acb5ac25abd5ae35ad75ae65ae95ad65afa5afb5b0c5b0b5b165b325ad05b2a5b365b3e5b435b455b405b515b555b5a5b5b5b655b695b705b735b755b7865885b7a5b805b835ba65bb85bc35bc75bc95bd45bd05be45be65be25bde5be55beb5bf05bf65bf35c055c075c085c0d5c135c205c225c285c385c395c415c465c4e5c53,
0x5c505c4f5b715c6c5c6e4e625c765c795c8c5c915c94599b5cab5cbb5cb65cbc5cb75cc55cbe5cc75cd95ce95cfd5cfa5ced5d8c5cea5d0b5d155d175d5c5d1f5d1b5d115d145d225d1a5d195d185d4c5d525d4e5d4b5d6c5d735d765d875d845d825da25d9d5dac5dae5dbd5d905db75dbc5dc95dcd5dd35dd25dd65ddb5deb5df25df55e0b5e1a5e195e115e1b5e365e375e445e435e405e4e5e575e545e5f5e625e645e475e755e765e7a9ebc5e7f5ea05ec15ec25ec85ed05ecf,
0x5ed65ee35edd5eda5edb5ee25ee15ee85ee95eec5ef15ef35ef05ef45ef85efe5f035f095f5d5f5c5f0b5f115f165f295f2d5f385f415f485f4c5f4e5f2f5f515f565f575f595f615f6d5f735f775f835f825f7f5f8a5f885f915f875f9e5f995f985fa05fa85fad5fbc5fd65ffb5fe45ff85ff15fdd60b35fff60216060601960106029600e6031601b6015602b6026600f603a605a6041606a6077605f604a6046604d6063604360646042606c606b60596081608d60e76083609a,
0x6084609b60966097609260a7608b60e160b860e060d360b45ff060bd60c660b560d8614d6115610660f660f7610060f460fa6103612160fb60f1610d610e6147613e61286127614a613f613c612c6134613d614261446173617761586159615a616b6174616f61656171615f615d6153617561996196618761ac6194619a618a619161ab61ae61cc61ca61c961f761c861c361c661ba61cb7f7961cd61e661e361f661fa61f461ff61fd61fc61fe620062086209620d620c6214621b,
0x621e6221622a622e6230623262336241624e625e6263625b62606268627c62826289627e62926293629662d46283629462d762d162bb62cf62ff62c664d462c862dc62cc62ca62c262c7629b62c9630c62ee62f163276302630862ef62f56350633e634d641c634f6396638e638063ab637663a3638f6389639f63b5636b636963be63e963c063c663e363c963d263f663c4641664346406641364266436651d64176428640f6467646f6476644e652a6495649364a564a9648864bc,
0x64da64d264c564c764bb64d864c264f164e7820964e064e162ac64e364ef652c64f664f464f264fa650064fd6518651c650565246523652b65346535653765366538754b654865566555654d6558655e655d65726578658265838b8a659b659f65ab65b765c365c665c165c465cc65d265db65d965e065e165f16772660a660365fb6773663566366634661c664f664466496641665e665d666466676668665f6662667066836688668e668966846698669d66c166b966c966be66bc,
0x66c466b866d666da66e0663f66e666e966f066f566f7670f6716671e672667279738672e673f67366741673867376746675e67606759676367646789677067a9677c676a678c678b67a667a1678567b767ef67b467ec67b367e967b867e467de67dd67e267ee67b967ce67c667e76a9c681e684668296840684d6832684e68b3682b685968636877687f689f688f68ad6894689d689b68836aae68b9687468b568a068ba690f688d687e690168ca690868d86922692668e1690c68cd,
0x68d468e768d569366912690468d768e3692568f968e068ef6928692a691a6923692168c669796977695c6978696b6954697e696e69396974693d695969306961695e695d6981696a69b269ae69d069bf69c169d369be69ce5be869ca69dd69bb69c369a76a2e699169a0699c699569b469de69e86a026a1b69ff6b0a69f969f269e76a0569b16a1e69ed6a1469eb6a0a6a126ac16a236a136a446a0c6a726a366a786a476a626a596a666a486a386a226a906a8d6aa06a846aa26aa3,
0x6a9786176abb6ac36ac26ab86ab36aac6ade6ad16adf6aaa6ada6aea6afb6b0586166afa6b126b169b316b1f6b386b3776dc6b3998ee6b476b436b496b506b596b546b5b6b5f6b616b786b796b7f6b806b846b836b8d6b986b956b9e6ba46baa6bab6baf6bb26bb16bb36bb76bbc6bc66bcb6bd36bdf6bec6beb6bf36bef9ebe6c086c136c146c1b6c246c236c5e6c556c626c6a6c826c8d6c9a6c816c9b6c7e6c686c736c926c906cc46cf16cd36cbd6cd76cc56cdd6cae6cb16cbe,
0x6cba6cdb6cef6cd96cea6d1f884d6d366d2b6d3d6d386d196d356d336d126d0c6d636d936d646d5a6d796d596d8e6d956fe46d856df96e156e0a6db56dc76de66db86dc66dec6dde6dcc6de86dd26dc56dfa6dd96de46dd56dea6dee6e2d6e6e6e2e6e196e726e5f6e3e6e236e6b6e2b6e766e4d6e1f6e436e3a6e4e6e246eff6e1d6e386e826eaa6e986ec96eb76ed36ebd6eaf6ec46eb26ed46ed56e8f6ea56ec26e9f6f416f11704c6eec6ef86efe6f3f6ef26f316eef6f326ecc,
0x6f3e6f136ef76f866f7a6f786f816f806f6f6f5b6ff36f6d6f826f7c6f586f8e6f916fc26f666fb36fa36fa16fa46fb96fc66faa6fdf6fd56fec6fd46fd86ff16fee6fdb7009700b6ffa70117001700f6ffe701b701a6f74701d7018701f7030703e7032705170637099709270af70f170ac70b870b370ae70df70cb70dd70d9710970fd711c711971657155718871667162714c7156716c718f71fb7184719571a871ac71d771b971be71d271c971d471ce71e071ec71e771f571fc,
0x71f971ff720d7210721b7228722d722c72307232723b723c723f72407246724b72587274727e7282728172877292729672a272a772b972b272c372c672c472ce72d272e272e072e172f972f7500f7317730a731c7316731d7334732f73297325733e734e734f9ed87357736a7368737073787375737b737a73c873b373ce73bb73c073e573ee73de74a27405746f742573f87432743a7455743f745f74597441745c746974707463746a7476747e748b749e74a774ca74cf74d473f1,
0x74e074e374e774e974ee74f274f074f174f874f7750475037505750c750e750d75157513751e7526752c753c7544754d754a7549755b7546755a756975647567756b756d75787576758675877574758a758975827594759a759d75a575a375c275b375c375b575bd75b875bc75b175cd75ca75d275d975e375de75fe75ff75fc760175f075fa75f275f3760b760d7609761f7627762076217622762476347630763b764776487646765c76587661766276687669766a7667766c7670,
0x767276767678767c768076837688768b768e769676937699769a76b076b476b876b976ba76c276cd76d676d276de76e176e576e776ea862f76fb77087707770477297724771e77257726771b773777387747775a7768776b775b7765777f777e7779778e778b779177a0779e77b077b677b977bf77bc77bd77bb77c777cd77d777da77dc77e377ee77fc780c781279267820792a7845788e78747886787c789a788c78a378b578aa78af78d178c678cb78d478be78bc78c578ca78ec,
0x78e778da78fd78f47907791279117919792c792b794079607957795f795a79557953797a797f798a799d79a79f4b79aa79ae79b379b979ba79c979d579e779ec79e179e37a087a0d7a187a197a207a1f79807a317a3b7a3e7a377a437a577a497a617a627a699f9d7a707a797a7d7a887a977a957a987a967aa97ac87ab07ab67ac57ac47abf90837ac77aca7acd7acf7ad57ad37ad97ada7add7ae17ae27ae67aed7af07b027b0f7b0a7b067b337b187b197b1e7b357b287b367b50,
0x7b7a7b047b4d7b0b7b4c7b457b757b657b747b677b707b717b6c7b6e7b9d7b987b9f7b8d7b9c7b9a7b8b7b927b8f7b5d7b997bcb7bc17bcc7bcf7bb47bc67bdd7be97c117c147be67be57c607c007c077c137bf37bf77c177c0d7bf67c237c277c2a7c1f7c377c2b7c3d7c4c7c437c547c4f7c407c507c587c5f7c647c567c657c6c7c757c837c907ca47cad7ca27cab7ca17ca87cb37cb27cb17cae7cb97cbd7cc07cc57cc27cd87cd27cdc7ce29b3b7cef7cf27cf47cf67cfa7d06,
0x7d027d1c7d157d0a7d457d4b7d2e7d327d3f7d357d467d737d567d4e7d727d687d6e7d4f7d637d937d897d5b7d8f7d7d7d9b7dba7dae7da37db57dc77dbd7dab7e3d7da27daf7ddc7db87d9f7db07dd87ddd7de47dde7dfb7df27de17e057e0a7e237e217e127e317e1f7e097e0b7e227e467e667e3b7e357e397e437e377e327e3a7e677e5d7e567e5e7e597e5a7e797e6a7e697e7c7e7b7e837dd57e7d8fae7e7f7e887e897e8c7e927e907e937e947e967e8e7e9b7e9c7f387f3a,
0x7f457f4c7f4d7f4e7f507f517f557f547f587f5f7f607f687f697f677f787f827f867f837f887f877f8c7f947f9e7f9d7f9a7fa37faf7fb27fb97fae7fb67fb88b717fc57fc67fca7fd57fd47fe17fe67fe97ff37ff998dc80068004800b801280188019801c80218028803f803b804a804680528058805a805f8062806880738072807080768079807d807f808480868085809b8093809a80ad519080ac80db80e580d980dd80c480da80d6810980ef80f1811b81298123812f814b,
0x968b8146813e8153815180fc8171816e81658166817481838188818a8180818281a0819581a481a3815f819381a981b081b581be81b881bd81c081c281ba81c981cd81d181d981d881c881da81df81e081e781fa81fb81fe8201820282058207820a820d821082168229822b82388233824082598258825d825a825f826482628268826a826b822e827182778278827e828d829282ab829f82bb82ac82e182e382df82d282f482f382fa8393830382fb82f982de830682dc830982d9,
0x833583348316833283318340833983508345832f832b831783188385839a83aa839f83a283968323838e8387838a837c83b58373837583a0838983a883f4841383eb83ce83fd840383d8840b83c183f7840783e083f2840d8422842083bd8438850683fb846d842a843c855a84848477846b84ad846e848284698446842c846f8479843584ca846284b984bf849f84d984cd84bb84da84d084c184c684d684a1852184ff84f485178518852c851f8515851484fc8540856385588548,
0x85418602854b8555858085a485888591858a85a8856d8594859b85ea8587859c8577857e859085c985ba85cf85b985d085d585dd85e585dc85f9860a8613860b85fe85fa86068622861a8630863f864d4e558654865f86678671869386a386a986aa868b868c86b686af86c486c686b086c9882386ab86d486de86e986ec86df86db86ef8712870687088700870386fb87118709870d86f9870a8734873f8737873b87258729871a8760875f8778874c874e877487578768876e8759,
0x87538763876a880587a2879f878287af87cb87bd87c087d096d687ab87c487b387c787c687bb87ef87f287e0880f880d87fe87f687f7880e87d2881188168815882288218831883688398827883b8844884288528859885e8862886b8881887e889e8875887d88b5887288828897889288ae889988a2888d88a488b088bf88b188c388c488d488d888d988dd88f9890288fc88f488e888f28904890c890a89138943891e8925892a892b89418944893b89368938894c891d8960895e,
0x89668964896d896a896f89748977897e89838988898a8993899889a189a989a689ac89af89b289ba89bd89bf89c089da89dc89dd89e789f489f88a038a168a108a0c8a1b8a1d8a258a368a418a5b8a528a468a488a7c8a6d8a6c8a628a858a828a848aa88aa18a918aa58aa68a9a8aa38ac48acd8ac28ada8aeb8af38ae78ae48af18b148ae08ae28af78ade8adb8b0c8b078b1a8ae18b168b108b178b208b3397ab8b268b2b8b3e8b288b418b4c8b4f8b4e8b498b568b5b8b5a8b6b,
0x8b5f8b6c8b6f8b748b7d8b808b8c8b8e8b928b938b968b998b9a8c3a8c418c3f8c488c4c8c4e8c508c558c628c6c8c788c7a8c828c898c858c8a8c8d8c8e8c948c7c8c98621d8cad8caa8cbd8cb28cb38cae8cb68cc88cc18ce48ce38cda8cfd8cfa8cfb8d048d058d0a8d078d0f8d0d8d109f4e8d138ccd8d148d168d678d6d8d718d738d818d998dc28dbe8dba8dcf8dda8dd68dcc8ddb8dcb8dea8deb8ddf8de38dfc8e088e098dff8e1d8e1e8e108e1f8e428e358e308e348e4a,
0x8e478e498e4c8e508e488e598e648e608e2a8e638e558e768e728e7c8e818e878e858e848e8b8e8a8e938e918e948e998eaa8ea18eac8eb08ec68eb18ebe8ec58ec88ecb8edb8ee38efc8efb8eeb8efe8f0a8f058f158f128f198f138f1c8f1f8f1b8f0c8f268f338f3b8f398f458f428f3e8f4c8f498f468f4e8f578f5c8f628f638f648f9c8f9f8fa38fad8faf8fb78fda8fe58fe28fea8fef90878ff490058ff98ffa901190159021900d901e9016900b90279036903590398ff8,
0x904f905090519052900e9049903e90569058905e9068906f907696a890729082907d90819080908a9089908f90a890af90b190b590e290e4624890db91029112911991329130914a9156915891639165916991739172918b9189918291a291ab91af91aa91b591b491ba91c091c191c991cb91d091d691df91e191db91fc91f591f6921e91ff9214922c92159211925e925792459249926492489295923f924b9250929c92969293929b925a92cf92b992b792e9930f92fa9344932e,
0x93199322931a9323933a9335933b935c9360937c936e935693b093ac93ad939493b993d693d793e893e593d893c393dd93d093c893e4941a941494139403940794109436942b94359421943a944194529444945b94609462945e946a9229947094759477947d945a947c947e9481947f95829587958a959495969598959995a095a895a795ad95bc95bb95b995be95ca6ff695c395cd95cc95d595d495d695dc95e195e595e296219628962e962f9642964c964f964b9677965c965e,
0x965d965f96669672966c968d96989695969796aa96a796b196b296b096b496b696b896b996ce96cb96c996cd894d96dc970d96d596f99704970697089713970e9711970f971697199724972a97309739973d973e97449746974897429749975c976097649766976852d2976b977197799785977c9781977a9786978b978f9790979c97a897a697a397b397b497c397c697c897cb97dc97ed9f4f97f27adf97f697f5980f980c9838982498219837983d9846984f984b986b986f9870,
0x98719874987398aa98af98b198b698c498c398c698e998eb990399099912991499189921991d991e99249920992c992e993d993e9942994999459950994b99519952994c99559997999899a599ad99ae99bc99df99db99dd99d899d199ed99ee99f199f299fb99f89a019a0f9a0599e29a199a2b9a379a459a429a409a439a3e9a559a4d9a5b9a579a5f9a629a659a649a699a6b9a6a9aad9ab09abc9ac09acf9ad19ad39ad49ade9adf9ae29ae39ae69aef9aeb9aee9af49af19af7,
0x9afb9b069b189b1a9b1f9b229b239b259b279b289b299b2a9b2e9b2f9b329b449b439b4f9b4d9b4e9b519b589b749b939b839b919b969b979b9f9ba09ba89bb49bc09bca9bb99bc69bcf9bd19bd29be39be29be49bd49be19c3a9bf29bf19bf09c159c149c099c139c0c9c069c089c129c0a9c049c2e9c1b9c259c249c219c309c479c329c469c3e9c5a9c609c679c769c789ce79cec9cf09d099d089ceb9d039d069d2a9d269daf9d239d1f9d449d159d129d419d3f9d3e9d469d48,
0x9d5d9d5e9d649d519d509d599d729d899d879dab9d6f9d7a9d9a9da49da99db29dc49dc19dbb9db89dba9dc69dcf9dc29dd99dd39df89de69ded9def9dfd9e1a9e1b9e1e9e759e799e7d9e819e889e8b9e8c9e929e959e919e9d9ea59ea99eb89eaa9ead97619ecc9ece9ecf9ed09ed49edc9ede9edd9ee09ee59ee89eef9ef49ef69ef79ef99efb9efc9efd9f079f0876b79f159f219f2c9f3e9f4a9f529f549f639f5f9f609f619f669f679f6c9f6a9f779f729f769f959f9c9fa0,
0x582f69c79059746451dc71990000000000000000000000000000000000000000000000000000000000000000000000000000000000000000000000000000000000000000000000000000000000000000000000000000000000000000000000000000000000000000000000000000000000000000000000000000000000000000000000000000000000000000000000000000000000000000000000000000000000000000000000000000000000000000000000000000000000000000]

def gb18030Rows : List ℕ := [
0x4e024e044e054e064e0f4e124e174e1f4e204e214e234e264e294e2e4e2f4e314e334e354e374e3c4e404e414e424e444e464e4a4e514e554e574e5a4e5b4e624e634e644e654e674e684e6a4e6b4e6c4e6d4e6e4e6f4e724e744e754e764e774e784e794e7a4e7b4e7c4e7d4e7f4e804e814e824e834e844e854e874e8a4e904e964e974e994e9c4e9d4e9e4ea34eaa4eaf4eb04eb14eb44eb64eb74eb84eb94ebc4ebd4ebe4ec84ecc4ecf4ed04ed24eda4edb4edc4ee04ee24ee64ee74ee94eed4eee4eef4ef14ef44ef84ef94efa4efc4efe4f004f024f034f044f054f064f074f084f0b4f0c4f124f134f144f154f164f1c4f1d4f214f234f284f294f2c4f2d4f2e4f314f334f354f374f394f3b4f3e4f3f4f404f414f424f444f454f474f484f494f4a4f4b4f4c4f524f544f564f614f624f664f684f6a4f6b4f6d4f6e4f714f724f754f774f784f794f7a4f7d4f804f814f824f854f864f874f8a4f8c4f8e4f904f924f934f954f964f984f994f9a4f9c4f9e4f9f4fa14fa2,
0x4fa44fab4fad4fb04fb14fb24fb34fb44fb64fb74fb84fb94fba4fbb4fbc4fbd4fbe4fc04fc14fc24fc64fc74fc84fc94fcb4fcc4fcd4fd24fd34fd44fd54fd64fd94fdb4fe04fe24fe44fe54fe74feb4fec4ff04ff24ff44ff54ff64ff74ff94ffb4ffc4ffd4fff5000500150025003500450055006500750085009500a500b500e501050115013501550165017501b501d501e50205022502350245027502b502f5030503150325033503450355036503750385039503b503d503f5040504150425044504550465049504a504b504d505050515052505350545056505750585059505b505d505e505f506050615062506350645066506750685069506a506b506d506e506f50705071507250735074507550785079507a507c507d5081508250835084508650875089508a508b508c508e508f5090509150925093509450955096509750985099509a509b509c509d509e509f50a050a150a250a450a650aa50ab50ad50ae50af50b050b150b350b450b550b650b750b850b950bc,
0x50bd50be50bf50c050c150c250c350c450c550c650c750c850c950ca50cb50cc50cd50ce50d050d150d250d350d450d550d750d850d950db50dc50dd50de50df50e050e150e250e350e450e550e850e950ea50eb50ef50f050f150f250f450f650f750f850f950fa50fc50fd50fe50ff51005101510251035104510551085109510a510c510d510e510f511051115113511451155116511751185119511a511b511c511d511e511f512051225123512451255126512751285129512a512b512c512d512e512f5130513151325133513451355136513751385139513a513b513c513d513e51425147514a514c514e514f515051525153515751585159515b515d515e515f5160516151635164516651675169516a516f5172517a517e517f5183518451865187518a518b518e518f51905191519351945198519a519d519e519f51a151a351a651a751a851a951aa51ad51ae51b451b851b951ba51be51bf51c151c251c351c551c851ca51cd51ce51d051d251d351d451d551d651d7,
0x51d851d951da51dc51de51df51e251e351e551e651e751e851e951ea51ec51ee51f151f251f451f751fe520452055209520b520c520f5210521352145215521c521e521f522152225223522552265227522a522c522f5231523252345235523c523e524452455246524752485249524b524e524f525252535255525752585259525a525b525d525f526052625263526452665268526b526c526d526e527052715273527452755276527752785279527a527b527c527e5280528352845285528652875289528a528b528c528d528e528f52915292529452955296529752985299529a529c52a452a552a652a752ae52af52b052b452b552b652b752b852b952ba52bb52bc52bd52c052c152c252c452c552c652c852ca52cc52cd52ce52cf52d152d352d452d552d752d952da52db52dc52dd52de52e052e152e252e352e552e652e752e852e952ea52eb52ec52ed52ee52ef52f152f252f352f452f552f652f752f852fb52fc52fd530153025303530453075309530a530b530c530e,
0x53115312531353145318531b531c531e531f532253245325532753285329532b532c532d532f533053315332533353345335533653375338533c533d5340534253445346534b534c534d5350535453585359535b535d53655368536a536c536d537253765379537b537c537d537e53805381538353875388538a538e538f53905391539253935394539653975399539b539c539e53a053a153a453a753aa53ab53ac53ad53af53b053b153b253b353b453b553b753b853b953ba53bc53bd53be53c053c353c453c553c653c753ce53cf53d053d253d353d553da53dc53dd53de53e153e253e753f453fa53fe53ff5400540254055407540b541454185419541a541c542254245425542a5430543354365437543a543d543f544154425444544554475449544c544d544e544f5451545a545d545e545f546054615463546554675469546a546b546c546d546e546f547054745479547a547e547f548154835485548754885489548a548d5491549354975498549c549e549f54a054a1,
0x54a254a554ae54b054b254b554b654b754b954ba54bc54be54c354c554ca54cb54d654d854db54e054e154e254e354e454eb54ec54ef54f054f154f454f554f654f754f854f954fb54fe550055025503550455055508550a550b550c550d550e5512551355155516551755185519551a551c551d551e551f55215525552655285529552b552d553255345535553655385539553a553b553d55405542554555475548554b554c554d554e554f5551555255535554555755585559555a555b555d555e555f55605562556355685569556b556f557055715572557355745579557a557d557f55855586558c558d558e559055925593559555965597559a559b559e55a055a155a255a355a455a555a655a855a955aa55ab55ac55ad55ae55af55b055b255b455b655b855ba55bc55bf55c055c155c255c355c655c755c855ca55cb55ce55cf55d055d555d755d855d955da55db55de55e055e255e755e955ed55ee55f055f155f455f655f855f955fa55fb55fc55ff5602560356045605,
0x56065607560a560b560d561056115612561356145615561656175619561a561c561d5620562156225625562656285629562a562b562e562f56305633563556375638563a563c563d563e5640564156425643564456455646564756485649564a564b564f565056515652565356555656565a565b565d565e565f566056615663566556665667566d566e566f56705672567356745675567756785679567a567d567e567f56805681568256835684568756885689568a568b568c568d569056915692569456955696569756985699569a569b569c569d569e569f56a056a156a256a456a556a656a756a856a956aa56ab56ac56ad56ae56b056b156b256b356b456b556b656b856b956ba56bb56bd56be56bf56c056c156c256c356c456c556c656c756c856c956cb56cc56cd56ce56cf56d056d156d256d356d556d656d856d956dc56e356e556e656e756e856e956ea56ec56ee56ef56f256f356f656f756f856fb56fc57005701570257055707570b570c570d570e570f57105711,
0x57125713571457155716571757185719571a571b571d571e5720572157225724572557265727572b5731573257345735573657375738573c573d573f5741574357445745574657485749574b57525753575457555756575857595762576357655767576c576e5770577157725774577557785779577a577d577e577f57805781578757885789578a578d578e578f57905791579457955796579757985799579a579c579d579e579f57a557a857aa57ac57af57b057b157b357b557b657b757b957ba57bb57bc57bd57be57bf57c057c157c457c557c657c757c857c957ca57cc57cd57d057d157d357d657d757db57dc57de57e157e257e357e557e657e757e857e957ea57eb57ec57ee57f057f157f257f357f557f657f757fb57fc57fe57ff580158035804580558085809580a580c580e580f5810581258135814581658175818581a581b581c581d581f5822582358255826582758285829582b582c582d582e582f58315832583358345836583758385839583a583b583c583d,
0x583e583f584058415842584358455846584758485849584a584b584e584f5850585258535855585658575859585a585b585c585d585f586058615862586358645866586758685869586a586d586e586f5870587158725873587458755876587758785879587a587b587c587d587f58825884588658875888588a588b588c588d588e588f5890589158945895589658975898589b589c589d58a058a158a258a358a458a558a658a758aa58ab58ac58ad58ae58af58b058b158b258b358b458b558b658b758b858b958ba58bb58bd58be58bf58c058c258c358c458c658c758c858c958ca58cb58cc58cd58ce58cf58d058d258d358d458d658d758d858d958da58db58dc58dd58de58df58e058e158e258e358e558e658e758e858e958ea58ed58ef58f158f258f458f558f758f858fa58fb58fc58fd58fe58ff5900590159035905590659085909590a590b590c590e591059115912591359175918591b591d591e592059215922592359265928592c59305932593359355936593b,
0x593d593e593f5940594359455946594a594c594d5950595259535959595b595c595d595e595f5961596359645966596759685969596a596b596c596d596e596f59705971597259755977597a597b597c597e597f598059855989598b598c598e598f59905991599459955998599a599b599c599d599f59a059a159a259a659a759ac59ad59b059b159b359b459b559b659b759b859ba59bc59bd59bf59c059c159c259c359c459c559c759c859c959cc59cd59ce59cf59d559d659d959db59de59df59e059e159e259e459e659e759e959ea59eb59ed59ee59ef59f059f159f259f359f459f559f659f759f859fa59fc59fd59fe5a005a025a0a5a0b5a0d5a0e5a0f5a105a125a145a155a165a175a195a1a5a1b5a1d5a1e5a215a225a245a265a275a285a2a5a2b5a2c5a2d5a2e5a2f5a305a335a355a375a385a395a3a5a3b5a3d5a3e5a3f5a415a425a435a445a455a475a485a4b5a4c5a4d5a4e5a4f5a505a515a525a535a545a565a575a585a595a5b5a5c5a5d5a5e5a5f5a60,
0x5a615a635a645a655a665a685a695a6b5a6c5a6d5a6e5a6f5a705a715a725a735a785a795a7b5a7c5a7d5a7e5a805a815a825a835a845a855a865a875a885a895a8a5a8b5a8c5a8d5a8e5a8f5a905a915a935a945a955a965a975a985a995a9c5a9d5a9e5a9f5aa05aa15aa25aa35aa45aa55aa65aa75aa85aa95aab5aac5aad5aae5aaf5ab05ab15ab45ab65ab75ab95aba5abb5abc5abd5abf5ac05ac35ac45ac55ac65ac75ac85aca5acb5acd5ace5acf5ad05ad15ad35ad55ad75ad95ada5adb5add5ade5adf5ae25ae45ae55ae75ae85aea5aec5aed5aee5aef5af05af25af35af45af55af65af75af85af95afa5afb5afc5afd5afe5aff5b005b015b025b035b045b055b065b075b085b0a5b0b5b0c5b0d5b0e5b0f5b105b115b125b135b145b155b185b195b1a5b1b5b1c5b1d5b1e5b1f5b205b215b225b235b245b255b265b275b285b295b2a5b2b5b2c5b2d5b2e5b2f5b305b315b335b355b365b385b395b3a5b3b5b3c5b3d5b3e5b3f5b415b425b435b445b455b465b47,
0x5b485b495b4a5b4b5b4c5b4d5b4e5b4f5b525b565b5e5b605b615b675b685b6b5b6d5b6e5b6f5b725b745b765b775b785b795b7b5b7c5b7e5b7f5b825b865b8a5b8d5b8e5b905b915b925b945b965b9f5ba75ba85ba95bac5bad5bae5baf5bb15bb25bb75bba5bbb5bbc5bc05bc15bc35bc85bc95bca5bcb5bcd5bce5bcf5bd15bd45bd55bd65bd75bd85bd95bda5bdb5bdc5be05be25be35be65be75be95bea5beb5bec5bed5bef5bf15bf25bf35bf45bf55bf65bf75bfd5bfe5c005c025c035c055c075c085c0b5c0c5c0d5c0e5c105c125c135c175c195c1b5c1e5c1f5c205c215c235c265c285c295c2a5c2b5c2d5c2e5c2f5c305c325c335c355c365c375c435c445c465c475c4c5c4d5c525c535c545c565c575c585c5a5c5b5c5c5c5d5c5f5c625c645c675c685c695c6a5c6b5c6c5c6d5c705c725c735c745c755c765c775c785c7b5c7c5c7d5c7e5c805c835c845c855c865c875c895c8a5c8b5c8e5c8f5c925c935c955c9d5c9e5c9f5ca05ca15ca45ca55ca65ca75ca8,
0x5caa5cae5caf5cb05cb25cb45cb65cb95cba5cbb5cbc5cbe5cc05cc25cc35cc55cc65cc75cc85cc95cca5ccc5ccd5cce5ccf5cd05cd15cd35cd45cd55cd65cd75cd85cda5cdb5cdc5cdd5cde5cdf5ce05ce25ce35ce75ce95ceb5cec5cee5cef5cf15cf25cf35cf45cf55cf65cf75cf85cf95cfa5cfc5cfd5cfe5cff5d005d015d045d055d085d095d0a5d0b5d0c5d0d5d0f5d105d115d125d135d155d175d185d195d1a5d1c5d1d5d1f5d205d215d225d235d255d285d2a5d2b5d2c5d2f5d305d315d325d335d355d365d375d385d395d3a5d3b5d3c5d3f5d405d415d425d435d445d455d465d485d495d4d5d4e5d4f5d505d515d525d535d545d555d565d575d595d5a5d5c5d5e5d5f5d605d615d625d635d645d655d665d675d685d6a5d6d5d6e5d705d715d725d735d755d765d775d785d795d7a5d7b5d7c5d7d5d7e5d7f5d805d815d835d845d855d865d875d885d895d8a5d8b5d8c5d8d5d8e5d8f5d905d915d925d935d945d955d965d975d985d9a5d9b5d9c5d9e5d9f5da0,
0x5da15da25da35da45da55da65da75da85da95daa5dab5dac5dad5dae5daf5db05db15db25db35db45db55db65db85db95dba5dbb5dbc5dbd5dbe5dbf5dc05dc15dc25dc35dc45dc65dc75dc85dc95dca5dcb5dcc5dce5dcf5dd05dd15dd25dd35dd45dd55dd65dd75dd85dd95dda5ddc5ddf5de05de35de45dea5dec5ded5df05df55df65df85df95dfa5dfb5dfc5dff5e005e045e075e095e0a5e0b5e0d5e0e5e125e135e175e1e5e1f5e205e215e225e235e245e255e285e295e2a5e2b5e2c5e2f5e305e325e335e345e355e365e395e3a5e3e5e3f5e405e415e435e465e475e485e495e4a5e4b5e4d5e4e5e4f5e505e515e525e535e565e575e585e595e5a5e5c5e5d5e5f5e605e635e645e655e665e675e685e695e6a5e6b5e6c5e6d5e6e5e6f5e705e715e755e775e795e7e5e815e825e835e855e885e895e8c5e8d5e8e5e925e985e9b5e9d5ea15ea25ea35ea45ea85ea95eaa5eab5eac5eae5eaf5eb05eb15eb25eb45eba5ebb5ebc5ebd5ebf5ec05ec15ec25ec35ec45ec5,
0x5ec65ec75ec85ecb5ecc5ecd5ece5ecf5ed05ed45ed55ed75ed85ed95eda5edc5edd5ede5edf5ee05ee15ee25ee35ee45ee55ee65ee75ee95eeb5eec5eed5eee5eef5ef05ef15ef25ef35ef55ef85ef95efb5efc5efd5f055f065f075f095f0c5f0d5f0e5f105f125f145f165f195f1a5f1c5f1d5f1e5f215f225f235f245f285f2b5f2c5f2e5f305f325f335f345f355f365f375f385f3b5f3d5f3e5f3f5f415f425f435f445f455f465f475f485f495f4a5f4b5f4c5f4d5f4e5f4f5f515f545f595f5a5f5b5f5c5f5e5f5f5f605f635f655f675f685f6b5f6e5f6f5f725f745f755f765f785f7a5f7d5f7e5f7f5f835f865f8d5f8e5f8f5f915f935f945f965f9a5f9b5f9d5f9e5f9f5fa05fa25fa35fa45fa55fa65fa75fa95fab5fac5faf5fb05fb15fb25fb35fb45fb65fb85fb95fba5fbb5fbe5fbf5fc05fc15fc25fc75fc85fca5fcb5fce5fd35fd45fd55fda5fdb5fdc5fde5fdf5fe25fe35fe55fe65fe85fe95fec5fef5ff05ff25ff35ff45ff65ff75ff95ffa5ffc6007,
0x60086009600b600c60106011601360176018601a601e601f602260236024602c602d602e603060316032603360346036603760386039603a603d603e6040604460456046604760486049604a604c604e604f605160536054605660576058605b605c605e605f6060606160656066606e60716072607460756077607e6080608160826085608660876088608a608b608e608f6090609160936095609760986099609c609e60a160a260a460a560a760a960aa60ae60b060b360b560b660b760b960ba60bd60be60bf60c060c160c260c360c460c760c860c960cc60cd60ce60cf60d060d260d360d460d660d760d960db60de60e160e260e360e460e560ea60f160f260f560f760f860fb60fc60fd60fe60ff61026103610461056107610a610b610c611061116112611361146116611761186119611b611c611d611e61216122612561286129612a612c612d612e612f6130613161326133613461356136613761386139613a613b613c613d613e6140614161426143614461456146,
0x61476149614b614d614f61506152615361546156615761586159615a615b615c615e615f6160616161636164616561666169616a616b616c616d616e616f6171617261736174617661786179617a617b617c617d617e617f6180618161826183618461856186618761886189618a618c618d618f619061916192619361956196619761986199619a619b619c619e619f61a061a161a261a361a461a561a661aa61ab61ad61ae61af61b061b161b261b361b461b561b661b861b961ba61bb61bc61bd61bf61c061c161c361c461c561c661c761c961cc61cd61ce61cf61d061d361d561d661d761d861d961da61db61dc61dd61de61df61e061e161e261e361e461e561e761e861e961ea61eb61ec61ed61ee61ef61f061f161f261f361f461f661f761f861f961fa61fb61fc61fd61fe62006201620262036204620562076209621362146219621c621d621e622062236226622762286229622b622d622f6230623162326235623662386239623a623b623c6242624462456246624a,
0x624f62506255625662576259625a625c625d625e625f626062616262626462656268627162726274627562776278627a627b627d6281628262836285628662876288628b628c628d628e628f629062946299629c629d629e62a362a662a762a962aa62ad62ae62af62b062b262b362b462b662b762b862ba62be62c062c162c362cb62cf62d162d562dd62de62e062e162e462ea62eb62f062f262f562f862f962fa62fb63006303630463056306630a630b630c630d630f63106312631363146315631763186319631c632663276329632c632d632e63306331633363346335633663376338633b633c633e633f63406341634463476348634a63516352635363546356635763586359635a635b635c635d63606364636563666368636a636b636c636f6370637263736374637563786379637c637d637e637f63816383638463856386638b638d639163936394639563976399639a639b639c639d639e639f63a163a463a663ab63af63b163b263b563b663b963bb63bd63bf63c0,
0x63c163c263c363c563c763c863ca63cb63cc63d163d363d463d563d763d863d963da63db63dc63dd63df63e263e463e563e663e763e863eb63ec63ee63ef63f063f163f363f563f763f963fa63fb63fc63fe640364046406640764086409640a640d640e6411641264156416641764186419641a641d641f6422642364246425642764286429642b642e642f643064316432643364356436643764386439643b643c643e6440644264436449644b644c644d644e644f6450645164536455645664576459645a645b645c645d645f64606461646264636464646564666468646a646b646c646e646f64706471647264736474647564766477647b647c647d647e647f648064816483648664886489648a648b648c648d648e648f64906493649464976498649a649b649c649d649f64a064a164a264a364a564a664a764a864aa64ab64af64b164b264b364b464b664b964bb64bd64be64bf64c164c364c464c664c764c864c964ca64cb64cc64cf64d164d364d464d564d664d964da,
0x64db64dc64dd64df64e064e164e364e564e764e864e964ea64eb64ec64ed64ee64ef64f064f164f264f364f464f564f664f764f864f964fa64fb64fc64fd64fe64ff65016502650365046505650665076508650a650b650c650d650e650f65106511651365146515651665176519651a651b651c651d651e651f652065216522652365246526652765286529652a652c652d65306531653265336537653a653c653d6540654165426543654465466547654a654b654d654e655065526553655465576558655a655c655f6560656165646565656765686569656a656d656e656f657165736575657665786579657a657b657c657d657e657f658065816582658365846585658665886589658a658d658e658f65926594659565966598659a659d659e65a065a265a365a665a865aa65ac65ae65b165b265b365b465b565b665b765b865ba65bb65be65bf65c065c265c765c865c965ca65cd65d065d165d365d465d565d865d965da65db65dc65dd65de65df65e165e365e465ea65eb,
0x65f265f365f465f565f865f965fb65fc65fd65fe65ff660166046605660766086609660b660d661066116612661666176618661a661b661c661e662166226623662466266629662a662b662c662e663066326633663766386639663a663b663d663f66406642664466456646664766486649664a664d664e6650665166586659665b665c665d665e666066626663666566676669666a666b666c666d667166726673667566786679667b667c667d667f6680668166836685668666886689668a668b668d668e668f6690669266936694669566986699669a669b669c669e669f66a066a166a266a366a466a566a666a966aa66ab66ac66ad66af66b066b166b266b366b566b666b766b866ba66bb66bc66bd66bf66c066c166c266c366c466c566c666c766c866c966ca66cb66cc66cd66ce66cf66d066d166d266d366d466d566d666d766d866da66de66df66e066e166e266e366e466e566e766e866ea66eb66ec66ed66ee66ef66f166f566f666f866fa66fb66fd670167026703,
0x6704670567066707670c670e670f671167126713671667186719671a671c671e67206721672267236724672567276729672e6730673267336736673767386739673b673c673e673f6741674467456747674a674b674d675267546755675767586759675a675b675d67626763676467666767676b676c676e67716774677667786779677a677b677d678067826783678567866788678a678c678d678e678f679167926793679467966799679b679f67a067a167a467a667a967ac67ae67b167b267b467b967ba67bb67bc67bd67be67bf67c067c267c567c667c767c867c967ca67cb67cc67cd67ce67d567d667d767db67df67e167e367e467e667e767e867ea67eb67ed67ee67f267f567f667f767f867f967fa67fb67fc67fe68016802680368046806680d681068126814681568186819681a681b681c681e681f68206822682368246825682668276828682b682c682d682e682f68306831683468356836683a683b683f6847684b684d684f68526856685768586859685a685b,
0x685c685d685e685f686a686c686d686e686f6870687168726873687568786879687a687b687c687d687e687f688068826884688768886889688a688b688c688d688e68906891689268946895689668986899689a689b689c689d689e689f68a068a168a368a468a568a968aa68ab68ac68ae68b168b268b468b668b768b868b968ba68bb68bc68bd68be68bf68c168c368c468c568c668c768c868ca68cc68ce68cf68d068d168d368d468d668d768d968db68dc68dd68de68df68e168e268e468e568e668e768e868e968ea68eb68ec68ed68ef68f268f368f468f668f768f868fb68fd68fe68ff69006902690369046906690769086909690a690c690f69116913691469156916691769186919691a691b691c691d691e69216922692369256926692769286929692a692b692c692e692f6931693269336935693669376938693a693b693c693e694069416943694469456946694769486949694a694b694c694d694e694f69506951695269536955695669586959695b695c695f,
0x6961696269646965696769686969696a696c696d696f697069726973697469756976697a697b697d697e697f698169836985698a698b698c698e698f6990699169926993699669976999699a699d699e699f69a069a169a269a369a469a569a669a969aa69ac69ae69af69b069b269b369b569b669b869b969ba69bc69bd69be69bf69c069c269c369c469c569c669c769c869c969cb69cd69cf69d169d269d369d569d669d769d869d969da69dc69dd69de69e169e269e369e469e569e669e769e869e969ea69eb69ec69ee69ef69f069f169f369f469f569f669f769f869f969fa69fb69fc69fe6a006a016a026a036a046a056a066a076a086a096a0b6a0c6a0d6a0e6a0f6a106a116a126a136a146a156a166a196a1a6a1b6a1c6a1d6a1e6a206a226a236a246a256a266a276a296a2b6a2c6a2d6a2e6a306a326a336a346a366a376a386a396a3a6a3b6a3c6a3f6a406a416a426a436a456a466a486a496a4a6a4b6a4c6a4d6a4e6a4f6a516a526a536a546a556a566a576a5a,
0x6a5c6a5d6a5e6a5f6a606a626a636a646a666a676a686a696a6a6a6b6a6c6a6d6a6e6a6f6a706a726a736a746a756a766a776a786a7a6a7b6a7d6a7e6a7f6a816a826a836a856a866a876a886a896a8a6a8b6a8c6a8d6a8f6a926a936a946a956a966a986a996a9a6a9b6a9c6a9d6a9e6a9f6aa16aa26aa36aa46aa56aa66aa76aa86aaa6aad6aae6aaf6ab06ab16ab26ab36ab46ab56ab66ab76ab86ab96aba6abb6abc6abd6abe6abf6ac06ac16ac26ac36ac46ac56ac66ac76ac86ac96aca6acb6acc6acd6ace6acf6ad06ad16ad26ad36ad46ad56ad66ad76ad86ad96ada6adb6adc6add6ade6adf6ae06ae16ae26ae36ae46ae56ae66ae76ae86ae96aea6aeb6aec6aed6aee6aef6af06af16af26af36af46af56af66af76af86af96afa6afb6afc6afd6afe6aff6b006b016b026b036b046b056b066b076b086b096b0a6b0b6b0c6b0d6b0e6b0f6b106b116b126b136b146b156b166b176b186b196b1a6b1b6b1c6b1d6b1e6b1f6b256b266b286b296b2a6b2b6b2c6b2d6b2e,
0x6b2f6b306b316b336b346b356b366b386b3b6b3c6b3d6b3f6b406b416b426b446b456b486b4a6b4b6b4d6b4e6b4f6b506b516b526b536b546b556b566b576b586b5a6b5b6b5c6b5d6b5e6b5f6b606b616b686b696b6b6b6c6b6d6b6e6b6f6b706b716b726b736b746b756b766b776b786b7a6b7d6b7e6b7f6b806b856b886b8c6b8e6b8f6b906b916b946b956b976b986b996b9c6b9d6b9e6b9f6ba06ba26ba36ba46ba56ba66ba76ba86ba96bab6bac6bad6bae6baf6bb06bb16bb26bb66bb86bb96bba6bbb6bbc6bbd6bbe6bc06bc36bc46bc66bc76bc86bc96bca6bcc6bce6bd06bd16bd86bda6bdc6bdd6bde6bdf6be06be26be36be46be56be66be76be86be96bec6bed6bee6bf06bf16bf26bf46bf66bf76bf86bfa6bfb6bfc6bfe6bff6c006c016c026c036c046c086c096c0a6c0b6c0c6c0e6c126c176c1c6c1d6c1e6c206c236c256c2b6c2c6c2d6c316c336c366c376c396c3a6c3b6c3c6c3e6c3f6c436c446c456c486c4b6c4c6c4d6c4e6c4f6c516c526c536c566c58,
0x6c596c5a6c626c636c656c666c676c6b6c6c6c6d6c6e6c6f6c716c736c756c776c786c7a6c7b6c7c6c7f6c806c846c876c8a6c8b6c8d6c8e6c916c926c956c966c976c986c9a6c9c6c9d6c9e6ca06ca26ca86cac6caf6cb06cb46cb56cb66cb76cba6cc06cc16cc26cc36cc66cc76cc86ccb6ccd6cce6ccf6cd16cd26cd86cd96cda6cdc6cdd6cdf6ce46ce66ce76ce96cec6ced6cf26cf46cf96cff6d006d026d036d056d066d086d096d0a6d0d6d0f6d106d116d136d146d156d166d186d1c6d1d6d1f6d206d216d226d236d246d266d286d296d2c6d2d6d2f6d306d346d366d376d386d3a6d3f6d406d426d446d496d4c6d506d556d566d576d586d5b6d5d6d5f6d616d626d646d656d676d686d6b6d6c6d6d6d706d716d726d736d756d766d796d7a6d7b6d7d6d7e6d7f6d806d816d836d846d866d876d8a6d8b6d8d6d8f6d906d926d966d976d986d996d9a6d9c6da26da56dac6dad6db06db16db36db46db66db76db96dba6dbb6dbc6dbd6dbe6dc16dc26dc36dc86dc96dca,
0x6dcd6dce6dcf6dd06dd26dd36dd46dd56dd76dda6ddb6ddc6ddf6de26de36de56de76de86de96dea6ded6def6df06df26df46df56df66df86dfa6dfd6dfe6dff6e006e016e026e036e046e066e076e086e096e0b6e0f6e126e136e156e186e196e1b6e1c6e1e6e1f6e226e266e276e286e2a6e2c6e2e6e306e316e336e356e366e376e396e3b6e3c6e3d6e3e6e3f6e406e416e426e456e466e476e486e496e4a6e4b6e4c6e4f6e506e516e526e556e576e596e5a6e5c6e5d6e5e6e606e616e626e636e646e656e666e676e686e696e6a6e6c6e6d6e6f6e706e716e726e736e746e756e766e776e786e796e7a6e7b6e7c6e7d6e806e816e826e846e876e886e8a6e8b6e8c6e8d6e8e6e916e926e936e946e956e966e976e996e9a6e9b6e9d6e9e6ea06ea16ea36ea46ea66ea86ea96eab6eac6ead6eae6eb06eb36eb56eb86eb96ebc6ebe6ebf6ec06ec36ec46ec56ec66ec86ec96eca6ecc6ecd6ece6ed06ed26ed66ed86ed96edb6edc6edd6ee36ee76eea6eeb6eec6eed6eee6eef,
0x6ef06ef16ef26ef36ef56ef66ef76ef86efa6efb6efc6efd6efe6eff6f006f016f036f046f056f076f086f0a6f0b6f0c6f0d6f0e6f106f116f126f166f176f186f196f1a6f1b6f1c6f1d6f1e6f1f6f216f226f236f256f266f276f286f2c6f2e6f306f326f346f356f376f386f396f3a6f3b6f3c6f3d6f3f6f406f416f426f436f446f456f486f496f4a6f4c6f4e6f4f6f506f516f526f536f546f556f566f576f596f5a6f5b6f5d6f5f6f606f616f636f646f656f676f686f696f6a6f6b6f6c6f6f6f706f716f736f756f766f776f796f7b6f7d6f7e6f7f6f806f816f826f836f856f866f876f8a6f8b6f8f6f906f916f926f936f946f956f966f976f986f996f9a6f9b6f9d6f9e6f9f6fa06fa26fa36fa46fa56fa66fa86fa96faa6fab6fac6fad6fae6faf6fb06fb16fb26fb46fb56fb76fb86fba6fbb6fbc6fbd6fbe6fbf6fc16fc36fc46fc56fc66fc76fc86fca6fcb6fcc6fcd6fce6fcf6fd06fd36fd46fd56fd66fd76fd86fd96fda6fdb6fdc6fdd6fdf6fe26fe36fe46fe5,
0x6fe66fe76fe86fe96fea6feb6fec6fed6ff06ff16ff26ff36ff46ff56ff66ff76ff86ff96ffa6ffb6ffc6ffd6ffe6fff7000700170027003700470057006700770087009700a700b700c700d700e700f701070127013701470157016701770187019701c701d701e701f702070217022702470257026702770287029702a702b702c702d702e702f70307031703270337034703670377038703a703b703c703d703e703f7040704170427043704470457046704770487049704a704b704d704e7050705170527053705470557056705770587059705a705b705c705d705f7060706170627063706470657066706770687069706a706e707170727073707470777079707a707b707d7081708270837084708670877088708b708c708d708f70907091709370977098709a709b709e709f70a070a170a270a370a470a570a670a770a870a970aa70b070b270b470b570b670ba70be70bf70c470c570c670c770c970cb70cc70cd70ce70cf70d070d170d270d370d470d570d670d770da,
0x70dc70dd70de70e070e170e270e370e570ea70ee70f070f170f270f370f470f570f670f870fa70fb70fc70fe70ff710071017102710371047105710671077108710b710c710d710e710f7111711271147117711b711c711d711e711f712071217122712371247125712771287129712a712b712c712d712e7132713371347135713771387139713a713b713c713d713e713f714071417142714371447146714771487149714b714d714f7150715171527153715471557156715771587159715a715b715d715f716071617162716371657169716a716b716c716d716f7170717171747175717671777179717b717c717e717f718071817182718371857186718771887189718b718c718d718e7190719171927193719571967197719a719b719c719d719e71a171a271a371a471a571a671a771a971aa71ab71ad71ae71af71b071b171b271b471b671b771b871ba71bb71bc71bd71be71bf71c071c171c271c471c571c671c771c871c971ca71cb71cc71cd71cf71d071d171d271d3,
0x71d671d771d871d971da71db71dc71dd71de71df71e171e271e371e471e671e871e971ea71eb71ec71ed71ef71f071f171f271f371f471f571f671f771f871fa71fb71fc71fd71fe71ff720072017202720372047205720772087209720a720b720c720d720e720f7210721172127213721472157216721772187219721a721b721c721e721f722072217222722372247225722672277229722b722d722e722f723272337234723a723c723e72407241724272437244724572467249724a724b724e724f7250725172537254725572577258725a725c725e72607263726472657268726a726b726c726d7270727172737274727672777278727b727c727d7282728372857286728772887289728c728e729072917293729472957296729772987299729a729b729c729d729e72a072a172a272a372a472a572a672a772a872a972aa72ab72ae72b172b272b372b572ba72bb72bc72bd72be72bf72c072c572c672c772c972ca72cb72cc72cf72d172d372d472d572d672d872da72db,
0xe4c6e4c7e4c8e4c9e4cae4cbe4cce4cde4cee4cfe4d0e4d1e4d2e4d3e4d4e4d5e4d6e4d7e4d8e4d9e4dae4dbe4dce4dde4dee4dfe4e0e4e1e4e2e4e3e4e4e4e5e4e6e4e7e4e8e4e9e4eae4ebe4ece4ede4eee4efe4f0e4f1e4f2e4f3e4f4e4f5e4f6e4f7e4f8e4f9e4fae4fbe4fce4fde4fee4ffe500e501e502e503e504e505e506e507e508e509e50ae50be50ce50de50ee50fe510e511e512e513e514e515e516e517e518e519e51ae51be51ce51de51ee51fe520e521e522e523e524e52530003001300200b702c902c700a8300330052014ff5e2016202620182019201c201d3014301530083009300a300b300c300d300e300f301630173010301100b100d700f72236222722282211220f222a222922082237221a22a52225222023122299222b222e2261224c2248223d221d2260226e226f22642265221e223522342642264000b0203220332103ff0400a4ffe0ffe1203000a721162606260525cb25cf25ce25c725c625a125a025b325b2203b21922190219121933013,
0xe526e527e528e529e52ae52be52ce52de52ee52fe530e531e532e533e534e535e536e537e538e539e53ae53be53ce53de53ee53fe540e541e542e543e544e545e546e547e548e549e54ae54be54ce54de54ee54fe550e551e552e553e554e555e556e557e558e559e55ae55be55ce55de55ee55fe560e561e562e563e564e565e566e567e568e569e56ae56be56ce56de56ee56fe570e571e572e573e574e575e576e577e578e579e57ae57be57ce57de57ee57fe580e581e582e583e584e5852170217121722173217421752176217721782179e766e767e768e769e76ae76b24882489248a248b248c248d248e248f2490249124922493249424952496249724982499249a249b247424752476247724782479247a247b247c247d247e247f24802481248224832484248524862487246024612462246324642465246624672468246920ace76d3220322132223223322432253226322732283229e76ee76f2160216121622163216421652166216721682169216a216be770e771,
0xe586e587e588e589e58ae58be58ce58de58ee58fe590e591e592e593e594e595e596e597e598e599e59ae59be59ce59de59ee59fe5a0e5a1e5a2e5a3e5a4e5a5e5a6e5a7e5a8e5a9e5aae5abe5ace5ade5aee5afe5b0e5b1e5b2e5b3e5b4e5b5e5b6e5b7e5b8e5b9e5bae5bbe5bce5bde5bee5bfe5c0e5c1e5c2e5c3e5c4e5c5e5c6e5c7e5c8e5c9e5cae5cbe5cce5cde5cee5cfe5d0e5d1e5d2e5d3e5d4e5d5e5d6e5d7e5d8e5d9e5dae5dbe5dce5dde5dee5dfe5e0e5e1e5e2e5e3e5e4e5e5ff01ff02ff03ffe5ff05ff06ff07ff08ff09ff0aff0bff0cff0dff0eff0fff10ff11ff12ff13ff14ff15ff16ff17ff18ff19ff1aff1bff1cff1dff1eff1fff20ff21ff22ff23ff24ff25ff26ff27ff28ff29ff2aff2bff2cff2dff2eff2fff30ff31ff32ff33ff34ff35ff36ff37ff38ff39ff3aff3bff3cff3dff3eff3fff40ff41ff42ff43ff44ff45ff46ff47ff48ff49ff4aff4bff4cff4dff4eff4fff50ff51ff52ff53ff54ff55ff56ff57ff58ff59ff5aff5bff5cff5dffe3,
0xe5e6e5e7e5e8e5e9e5eae5ebe5ece5ede5eee5efe5f0e5f1e5f2e5f3e5f4e5f5e5f6e5f7e5f8e5f9e5fae5fbe5fce5fde5fee5ffe600e601e602e603e604e605e606e607e608e609e60ae60be60ce60de60ee60fe610e611e612e613e614e615e616e617e618e619e61ae61be61ce61de61ee61fe620e621e622e623e624e625e626e627e628e629e62ae62be62ce62de62ee62fe630e631e632e633e634e635e636e637e638e639e63ae63be63ce63de63ee63fe640e641e642e643e644e645304130423043304430453046304730483049304a304b304c304d304e304f3050305130523053305430553056305730583059305a305b305c305d305e305f3060306130623063306430653066306730683069306a306b306c306d306e306f3070307130723073307430753076307730783079307a307b307c307d307e307f3080308130823083308430853086308730883089308a308b308c308d308e308f3090309130923093e772e773e774e775e776e777e778e779e77ae77be77c,
0xe646e647e648e649e64ae64be64ce64de64ee64fe650e651e652e653e654e655e656e657e658e659e65ae65be65ce65de65ee65fe660e661e662e663e664e665e666e667e668e669e66ae66be66ce66de66ee66fe670e671e672e673e674e675e676e677e678e679e67ae67be67ce67de67ee67fe680e681e682e683e684e685e686e687e688e689e68ae68be68ce68de68ee68fe690e691e692e693e694e695e696e697e698e699e69ae69be69ce69de69ee69fe6a0e6a1e6a2e6a3e6a4e6a530a130a230a330a430a530a630a730a830a930aa30ab30ac30ad30ae30af30b030b130b230b330b430b530b630b730b830b930ba30bb30bc30bd30be30bf30c030c130c230c330c430c530c630c730c830c930ca30cb30cc30cd30ce30cf30d030d130d230d330d430d530d630d730d830d930da30db30dc30dd30de30df30e030e130e230e330e430e530e630e730e830e930ea30eb30ec30ed30ee30ef30f030f130f230f330f430f530f6e77de77ee77fe780e781e782e783e784,
0xe6a6e6a7e6a8e6a9e6aae6abe6ace6ade6aee6afe6b0e6b1e6b2e6b3e6b4e6b5e6b6e6b7e6b8e6b9e6bae6bbe6bce6bde6bee6bfe6c0e6c1e6c2e6c3e6c4e6c5e6c6e6c7e6c8e6c9e6cae6cbe6cce6cde6cee6cfe6d0e6d1e6d2e6d3e6d4e6d5e6d6e6d7e6d8e6d9e6dae6dbe6dce6dde6dee6dfe6e0e6e1e6e2e6e3e6e4e6e5e6e6e6e7e6e8e6e9e6eae6ebe6ece6ede6eee6efe6f0e6f1e6f2e6f3e6f4e6f5e6f6e6f7e6f8e6f9e6fae6fbe6fce6fde6fee6ffe700e701e702e703e704e705039103920393039403950396039703980399039a039b039c039d039e039f03a003a103a303a403a503a603a703a803a9e785e786e787e788e789e78ae78be78c03b103b203b303b403b503b603b703b803b903ba03bb03bc03bd03be03bf03c003c103c303c403c503c603c703c803c9e78de78ee78fe790e791e792e793fe35fe36fe39fe3afe3ffe40fe3dfe3efe41fe42fe43fe44e794e795fe3bfe3cfe37fe38fe31e796fe33fe34e797e798e799e79ae79be79ce79de79ee79f,
0xe706e707e708e709e70ae70be70ce70de70ee70fe710e711e712e713e714e715e716e717e718e719e71ae71be71ce71de71ee71fe720e721e722e723e724e725e726e727e728e729e72ae72be72ce72de72ee72fe730e731e732e733e734e735e736e737e738e739e73ae73be73ce73de73ee73fe740e741e742e743e744e745e746e747e748e749e74ae74be74ce74de74ee74fe750e751e752e753e754e755e756e757e758e759e75ae75be75ce75de75ee75fe760e761e762e763e764e76504100411041204130414041504010416041704180419041a041b041c041d041e041f0420042104220423042404250426042704280429042a042b042c042d042e042fe7a0e7a1e7a2e7a3e7a4e7a5e7a6e7a7e7a8e7a9e7aae7abe7ace7ade7ae04300431043204330434043504510436043704380439043a043b043c043d043e043f0440044104420443044404450446044704480449044a044b044c044d044e044fe7afe7b0e7b1e7b2e7b3e7b4e7b5e7b6e7b7e7b8e7b9e7bae7bb,
0x2ca02cb02d920132015202520352105210921962197219821992215221f222322522266226722bf2550255125522553255425552556255725582559255a255b255c255d255e255f2560256125622563256425652566256725682569256a256b256c256d256e256f2570257125722573258125822583258425852586258725882589258a258b258c258d258e258f25932594259525bc25bd25e225e325e425e5260922953012301d301ee7bce7bde7bee7bfe7c0e7c1e7c2e7c3e7c4e7c5e7c6010100e101ce00e0011300e9011b00e8012b00ed01d000ec014d00f301d200f2016b00fa01d400f901d601d801da01dc00fc00ea0251e7c70144014801f90261e7c9e7cae7cbe7cc31053106310731083109310a310b310c310d310e310f3110311131123113311431153116311731183119311a311b311c311d311e311f3120312131223123312431253126312731283129e7cde7cee7cfe7d0e7d1e7d2e7d3e7d4e7d5e7d6e7d7e7d8e7d9e7dae7dbe7dce7dde7dee7dfe7e0e7e1,
0x30213022302330243025302630273028302932a3338e338f339c339d339e33a133c433ce33d133d233d5fe30ffe2ffe4e7e221213231e7e32010e7e4e7e5e7e630fc309b309c30fd30fe3006309d309efe49fe4afe4bfe4cfe4dfe4efe4ffe50fe51fe52fe54fe55fe56fe57fe59fe5afe5bfe5cfe5dfe5efe5ffe60fe61fe62fe63fe64fe65fe66fe68fe69fe6afe6b303e2ff02ff12ff22ff32ff42ff52ff62ff72ff82ff92ffa2ffb3007e7f4e7f5e7f6e7f7e7f8e7f9e7fae7fbe7fce7fde7fee7ffe8002500250125022503250425052506250725082509250a250b250c250d250e250f2510251125122513251425152516251725182519251a251b251c251d251e251f2520252125222523252425252526252725282529252a252b252c252d252e252f2530253125322533253425352536253725382539253a253b253c253d253e253f2540254125422543254425452546254725482549254a254be801e802e803e804e805e806e807e808e809e80ae80be80ce80de80ee80f,
0x72dc72dd72df72e272e372e472e572e672e772ea72eb72f572f672f972fd72fe72ff73007302730473057306730773087309730b730c730d730f731073117312731473187319731a731f732073237324732673277328732d732f73307332733373357336733a733b733c733d7340734173427343734473457346734773487349734a734b734c734e734f7351735373547355735673587359735a735b735c735d735e735f736173627363736473657366736773687369736a736b736e73707371e000e001e002e003e004e005e006e007e008e009e00ae00be00ce00de00ee00fe010e011e012e013e014e015e016e017e018e019e01ae01be01ce01de01ee01fe020e021e022e023e024e025e026e027e028e029e02ae02be02ce02de02ee02fe030e031e032e033e034e035e036e037e038e039e03ae03be03ce03de03ee03fe040e041e042e043e044e045e046e047e048e049e04ae04be04ce04de04ee04fe050e051e052e053e054e055e056e057e058e059e05ae05be05ce05d,
0x73727373737473757376737773787379737a737b737c737d737f7380738173827383738573867388738a738c738d738f73907392739373947395739773987399739a739c739d739e73a073a173a373a473a573a673a773a873aa73ac73ad73b173b473b573b673b873b973bc73bd73be73bf73c173c373c473c573c673c773cb73cc73ce73d273d373d473d573d673d773d873da73db73dc73dd73df73e173e273e373e473e673e873ea73eb73ec73ee73ef73f073f173f373f473f573f673f7e05ee05fe060e061e062e063e064e065e066e067e068e069e06ae06be06ce06de06ee06fe070e071e072e073e074e075e076e077e078e079e07ae07be07ce07de07ee07fe080e081e082e083e084e085e086e087e088e089e08ae08be08ce08de08ee08fe090e091e092e093e094e095e096e097e098e099e09ae09be09ce09de09ee09fe0a0e0a1e0a2e0a3e0a4e0a5e0a6e0a7e0a8e0a9e0aae0abe0ace0ade0aee0afe0b0e0b1e0b2e0b3e0b4e0b5e0b6e0b7e0b8e0b9e0bae0bb,
0x73f873f973fa73fb73fc73fd73fe73ff740074017402740474077408740b740c740d740e741174127413741474157416741774187419741c741d741e741f742074217423742474277429742b742d742f74317432743774387439743a743b743d743e743f744074427443744474457446744774487449744a744b744c744d744e744f7450745174527453745474567458745d7460746174627463746474657466746774687469746a746b746c746e746f7471747274737474747574787479747ae0bce0bde0bee0bfe0c0e0c1e0c2e0c3e0c4e0c5e0c6e0c7e0c8e0c9e0cae0cbe0cce0cde0cee0cfe0d0e0d1e0d2e0d3e0d4e0d5e0d6e0d7e0d8e0d9e0dae0dbe0dce0dde0dee0dfe0e0e0e1e0e2e0e3e0e4e0e5e0e6e0e7e0e8e0e9e0eae0ebe0ece0ede0eee0efe0f0e0f1e0f2e0f3e0f4e0f5e0f6e0f7e0f8e0f9e0fae0fbe0fce0fde0fee0ffe100e101e102e103e104e105e106e107e108e109e10ae10be10ce10de10ee10fe110e111e112e113e114e115e116e117e118e119,
0x747b747c747d747f748274847485748674887489748a748c748d748f749174927493749474957496749774987499749a749b749d749f74a074a174a274a374a474a574a674aa74ab74ac74ad74ae74af74b074b174b274b374b474b574b674b774b874b974bb74bc74bd74be74bf74c074c174c274c374c474c574c674c774c874c974ca74cb74cc74cd74ce74cf74d074d174d374d474d574d674d774d874d974da74db74dd74df74e174e574e774e874e974ea74eb74ec74ed74f074f174f2e11ae11be11ce11de11ee11fe120e121e122e123e124e125e126e127e128e129e12ae12be12ce12de12ee12fe130e131e132e133e134e135e136e137e138e139e13ae13be13ce13de13ee13fe140e141e142e143e144e145e146e147e148e149e14ae14be14ce14de14ee14fe150e151e152e153e154e155e156e157e158e159e15ae15be15ce15de15ee15fe160e161e162e163e164e165e166e167e168e169e16ae16be16ce16de16ee16fe170e171e172e173e174e175e176e177,
0x74f374f574f874f974fa74fb74fc74fd74fe750075017502750375057506750775087509750a750b750c750e751075127514751575167517751b751d751e7520752175227523752475267527752a752e753475367539753c753d753f7541754275437544754675477549754a754d75507551755275537555755675577558755d755e755f75607561756275637564756775687569756b756c756d756e756f757075717573757575767577757a757b757c757d757e758075817582758475857587e178e179e17ae17be17ce17de17ee17fe180e181e182e183e184e185e186e187e188e189e18ae18be18ce18de18ee18fe190e191e192e193e194e195e196e197e198e199e19ae19be19ce19de19ee19fe1a0e1a1e1a2e1a3e1a4e1a5e1a6e1a7e1a8e1a9e1aae1abe1ace1ade1aee1afe1b0e1b1e1b2e1b3e1b4e1b5e1b6e1b7e1b8e1b9e1bae1bbe1bce1bde1bee1bfe1c0e1c1e1c2e1c3e1c4e1c5e1c6e1c7e1c8e1c9e1cae1cbe1cce1cde1cee1cfe1d0e1d1e1d2e1d3e1d4e1d5,
0x75887589758a758c758d758e7590759375957598759b759c759e75a275a675a775a875a975aa75ad75b675b775ba75bb75bf75c075c175c675cb75cc75ce75cf75d075d175d375d775d975da75dc75dd75df75e075e175e575e975ec75ed75ee75ef75f275f375f575f675f775f875fa75fb75fd75fe760276047606760776087609760b760d760e760f76117612761376147616761a761c761d761e7621762376277628762c762e762f76317632763676377639763a763b763d764176427644e1d6e1d7e1d8e1d9e1dae1dbe1dce1dde1dee1dfe1e0e1e1e1e2e1e3e1e4e1e5e1e6e1e7e1e8e1e9e1eae1ebe1ece1ede1eee1efe1f0e1f1e1f2e1f3e1f4e1f5e1f6e1f7e1f8e1f9e1fae1fbe1fce1fde1fee1ffe200e201e202e203e204e205e206e207e208e209e20ae20be20ce20de20ee20fe210e211e212e213e214e215e216e217e218e219e21ae21be21ce21de21ee21fe220e221e222e223e224e225e226e227e228e229e22ae22be22ce22de22ee22fe230e231e232e233,
0x76457646764776487649764a764b764e764f76507651765276537655765776587659765a765b765d765f766076617662766476657666766776687669766a766c766d766e767076717672767376747675767676777679767a767c767f76807681768376857689768a768c768d768f769076927694769576977698769a769b769c769d769e769f76a076a176a276a376a576a676a776a876a976aa76ab76ac76ad76af76b076b376b576b676b776b876b976ba76bb76bc76bd76be76c076c176c3554a963f57c3632854ce550954c07691764c853c77ee827e788d72319698978d6c285b894ffa630966975cb880fa684880ae660276ce51f9655671ac7ff1888450b2596561ca6fb382ad634c625253ed54277b06516b75a45df462d48dcb9776628a8019575d97387f627238767d67cf767e64464f708d2562dc7a17659173ed642c6273822c9881677f7248626e62cc4f3474e3534a529e7eca90a65e2e6886699c81807ed168d278c5868c9551508d8c2482de80de530589125265,
0x76c476c776c976cb76cc76d376d576d976da76dc76dd76de76e076e176e276e376e476e676e776e876e976ea76eb76ec76ed76f076f376f576f676f776fa76fb76fd76ff77007702770377057706770a770c770e770f771077117712771377147715771677177718771b771c771d771e77217723772477257727772a772b772c772e773077317732773377347739773b773d773e773f774277447745774677487749774a774b774c774d774e774f77527753775477557756775777587759775c858496f94fdd582199715b9d62b162a566b48c799c8d7206676f789160b2535153178f8880cc8d1d94a1500d72c8590760eb711988ab595482ef672c7b285d297ef7752d6cf58e668ff8903c9f3b6bd491197b145f7c78a784d6853d6bd56bd96bd65e015e8775f995ed655d5f0a5fc58f9f58c181c2907f965b97ad8fb97f168d2c62414fbf53d8535e8fa88fa98fab904d68075f6a819888689cd6618b522b762a5f6c658c6fd26ee85bbe6448517551b067c44e1979c9997c70b3,
0x775d775e775f7760776477677769776a776d776e776f777077717772777377747775777677777778777a777b777c7781778277837786778777887789778a778b778f77907793779477957796779777987799779a779b779c779d779e77a177a377a477a677a877ab77ad77ae77af77b177b277b477b677b777b877b977ba77bc77be77c077c177c277c377c477c577c677c777c877c977ca77cb77cc77ce77cf77d077d177d277d377d477d577d677d877d977da77dd77de77df77e077e177e475c55e7673bb83e064ad62e894b56ce2535a52c3640f94c27b944f2f5e1b82368116818a6e246cca9a736355535c54fa886557e04e0d5e036b657c3f90e8601664e6731c88c16750624d8d22776c8e2991c75f6983dc8521991053c286956b8b60ed60e8707f82cd82314ed36ca785cf64cd7cd969fd66f9834953957b564fa7518c6d4b5c428e6d63d253c9832c833667e578b4643d5bdf5c945dee8be762c667f48c7a640063ba8749998b8c177f2094f24ea7961098a4660c7316,
0x77e677e877ea77ef77f077f177f277f477f577f777f977fa77fb77fc780378047805780678077808780a780b780e780f7810781378157819781b781e78207821782278247828782a782b782e782f78317832783378357836783d783f7841784278437844784678487849784a784b784d784f78517853785478587859785a785b785c785e785f7860786178627863786478657866786778687869786f787078717872787378747875787678787879787a787b787d787e787f7880788178827883573a5c1d5e38957f507f80a05382655e7545553150218d856284949e671d56326f6e5de2543570928f66626f64a463a35f7b6f8890f481e38fb05c1866685ff16c8996488d81886c649179f057ce6a59621054484e587a0b60e96f848bda627f901e9a8b79e4540375f4630153196c608fdf5f1b9a70803b9f7f4f885c3a8d647fc565a570bd514551b2866b5d075ba062bd916c75748e0c7a2061017b794ec77ef877854e1181ed521d51fa6a7153a88e87950496cf6ec19664695a,
0x7884788578867888788a788b788f789078927894789578967899789d789e78a078a278a478a678a878a978aa78ab78ac78ad78ae78af78b578b678b778b878ba78bb78bc78bd78bf78c078c278c378c478c678c778c878cc78cd78ce78cf78d178d278d378d678d778d878da78db78dc78dd78de78df78e078e178e278e378e478e578e678e778e978ea78eb78ed78ee78ef78f078f178f378f578f678f878f978fb78fc78fd78fe78ff79007902790379047906790779087909790a790b790c784050a877d7641089e6590463e35ddd7a7f693d4f20823955984e3275ae7a975e625e8a95ef521b5439708a6376952457826625693f918755076df37eaf882262337ef075b5832878c196cc8f9e614874f78bcd6b64523a8d506b21806a847156f153064ece4e1b51d17c97918b7c074fc38e7f7be17a9c64675d1450ac810676017cb96dec7fe067515b585bf878cb64ae641363aa632b9519642d8fbe7b5476296253592754466b7950a362345e266b864ee38d37888b5f85902e,
0x790d790e790f791079117912791479157916791779187919791a791b791c791d791f792079217922792379257926792779287929792a792b792c792d792e792f793079317932793379357936793779387939793d793f79427943794479457947794a794b794c794d794e794f795079517952795479557958795979617963796479667969796a796b796c796e79707971797279737974797579767979797b797c797d797e797f798279837986798779887989798b798c798d798e7990799179926020803d62c54e39535590f863b880c665e66c2e4f4660ee6de18bde5f3986cb5f536321515a83616863520063638e4850125c9b79775bfc52307a3b60bc905376d75fb75f9776848e6c706f767b7b4977aa51f3909358244f4e6ef48fea654c7b1b72c46da47fdf5ae162b55e95573084827b2c5e1d5f1f90127f1498a063826ec7789870b95178975b57ab75354f4375385e9760e659606dc06bbf788953fc96d551cb52016389540a94938c038dcc7239789f87768fed8c0d53e0,
0x7993799479957996799779987999799b799c799d799e799f79a079a179a279a379a479a579a679a879a979aa79ab79ac79ad79ae79af79b079b179b279b479b579b679b779b879bc79bf79c279c479c579c779c879ca79cc79ce79cf79d079d379d479d679d779d979da79db79dc79dd79de79e079e179e279e579e879ea79ec79ee79f179f279f379f479f579f679f779f979fa79fc79fe79ff7a017a047a057a077a087a097a0a7a0c7a0f7a107a117a127a137a157a167a187a197a1b7a1c4e0176ef53ee948998769f0e952d5b9a8ba24e224e1c51ac846361c252a8680b4f97606b51bb6d1e515c6296659796618c46901775d890fd77636bd2728a72ec8bfb583577798d4c675c9540809a5ea66e2159927aef77ed953b6bb565ad7f0e58065151961f5bf958a954288e726566987f56e4949d76fe9041638754c6591a593a579b8eb267358dfa8235524160f0581586fe5ce89e454fc4989d8bb95a2560765384627c904f9102997f6069800c513f80335c1499756d314e8c,
0x7a1d7a1f7a217a227a247a257a267a277a287a297a2a7a2b7a2c7a2d7a2e7a2f7a307a317a327a347a357a367a387a3a7a3e7a407a417a427a437a447a457a477a487a497a4a7a4b7a4c7a4d7a4e7a4f7a507a527a537a547a557a567a587a597a5a7a5b7a5c7a5d7a5e7a5f7a607a617a627a637a647a657a667a677a687a697a6a7a6b7a6c7a6d7a6e7a6f7a717a727a737a757a7b7a7c7a7d7a7e7a827a857a877a897a8a7a8b7a8c7a8e7a8f7a907a937a947a997a9a7a9b7a9e7aa17aa28d3053d17f5a7b4f4f104e4f96006cd573d085e95e06756a7ffb6a0a77fe94927e4151e170e653cd8fd483038d2972af996d6cdb574a82b365b980aa623f963259a84eff8bbf7eba653e83f2975e556198de80a5532a8bfd542080ba5e9f6cb88d3982ac915a54296c1b52067eb7575f711a6c7e7c89594b4efd5fff61247caa4e305c0167ab87025cf0950b98ce75af70fd902251af7f1d8bbd594951e44f5b5426592b657780a45b75627662c28f905e456c1f7b264f0f4fd8670d,
0x7aa37aa47aa77aa97aaa7aab7aae7aaf7ab07ab17ab27ab47ab57ab67ab77ab87ab97aba7abb7abc7abd7abe7ac07ac17ac27ac37ac47ac57ac67ac77ac87ac97aca7acc7acd7ace7acf7ad07ad17ad27ad37ad47ad57ad77ad87ada7adb7adc7add7ae17ae27ae47ae77ae87ae97aea7aeb7aec7aee7af07af17af27af37af47af57af67af77af87afb7afc7afe7b007b017b027b057b077b097b0c7b0d7b0e7b107b127b137b167b177b187b1a7b1c7b1d7b1f7b217b227b237b277b297b2d6d6e6daa798f88b15f17752b629a8f854fef91dc65a7812f81515e9c81508d74526f89868d4b590d50854ed8961c723681798d1f5bcc8ba3964459877f1a54905676560e8be565396982949976d66e895e727518674667d17aff809d8d76611f79c665628d635188521a94a27f38809b7eb25c976e2f67607bd9768b9ad8818f7f947cd5641e95507a3f544a54e56b4c640162089e3d80f3759952729769845b683c86e49601969494ec4e2a54047ed968398ddf801566f45e9a7fb9,
0x7b2f7b307b327b347b357b367b377b397b3b7b3d7b3f7b407b417b427b437b447b467b487b4a7b4d7b4e7b537b557b577b597b5c7b5e7b5f7b617b637b647b657b667b677b687b697b6a7b6b7b6c7b6d7b6f7b707b737b747b767b787b7a7b7c7b7d7b7f7b817b827b837b847b867b877b887b897b8a7b8b7b8c7b8e7b8f7b917b927b937b967b987b997b9a7b9b7b9e7b9f7ba07ba37ba47ba57bae7baf7bb07bb27bb37bb57bb67bb77bb97bba7bbb7bbc7bbd7bbe7bbf7bc07bc27bc37bc457c2803f68975de5653b529f606d9f9a4f9b8eac516c5bab5f135de96c5e62f18d21517194a952fe6c9f82df72d757a267848d2d591f8f9c83c754957b8d4f306cbd5b6459d19f1353e486ca9aa88c3780a16545987e56fa96c7522e74dc52505be1630289024e5662d0602a68fa51735b9851a089c27ba199867f5060ef704c8d2f51495e7f901b747089c4572d78455f529f9f95fa8f689b3c8be17678684267dc8dea8d35523d8f8a6eda68cd950590ed56fd679c88f98fc754c8,
0x7bc57bc87bc97bca7bcb7bcd7bce7bcf7bd07bd27bd47bd57bd67bd77bd87bdb7bdc7bde7bdf7be07be27be37be47be77be87be97beb7bec7bed7bef7bf07bf27bf37bf47bf57bf67bf87bf97bfa7bfb7bfd7bff7c007c017c027c037c047c057c067c087c097c0a7c0d7c0e7c107c117c127c137c147c157c177c187c197c1a7c1b7c1c7c1d7c1e7c207c217c227c237c247c257c287c297c2b7c2c7c2d7c2e7c2f7c307c317c327c337c347c357c367c377c397c3a7c3b7c3c7c3d7c3e7c429ab85b696d776c264ea55bb39a87916361a890af97e9542b6db55bd251fd558a7f557ff064bc634d65f161be608d710a6c576c49592f676d822a58d5568e8c6a6beb90dd597d801753f76d695475559d837783cf683879be548c4f55540876d28c8996026cb36db88d6b89109e648d3a563f9ed175d55f8872e0606854fc4ea86a2a886160528f7054c470d886799e3f6d2a5b8f5f187ea255894faf7334543c539a5019540e547c4e4e5ffd745a58f6846b80e1877472d07cca6e56,
0x7c437c447c457c467c477c487c497c4a7c4b7c4c7c4e7c4f7c507c517c527c537c547c557c567c577c587c597c5a7c5b7c5c7c5d7c5e7c5f7c607c617c627c637c647c657c667c677c687c697c6a7c6b7c6c7c6d7c6e7c6f7c707c717c727c757c767c777c787c797c7a7c7e7c7f7c807c817c827c837c847c857c867c877c887c8a7c8b7c8c7c8d7c8e7c8f7c907c937c947c967c997c9a7c9b7ca07ca17ca37ca67ca77ca87ca97cab7cac7cad7caf7cb07cb47cb57cb67cb77cb87cba7cbb5f27864e552c62a44e926caa623782b154d7534e733e6ed1753b521253168bdd69d05f8a60006dee574f6b2273af68538fd87f13636260a3552475ea8c6271156da35ba65e7b8352614c9ec478fa87577c27768751f060f6714c66435e4c604d8c0e707063258f895fbd606286d456de6bc160946167534960e066668d3f79fd4f1a70e96c478bb38bf27ed88364660f5a5a9b426d516df78c416d3b4f19706b83b7621660d1970d8d27797851fb573e57fa673a75787a3d79ef7b95,
0x7cbf7cc07cc27cc37cc47cc67cc97ccb7cce7ccf7cd07cd17cd27cd37cd47cd87cda7cdb7cdd7cde7ce17ce27ce37ce47ce57ce67ce77ce97cea7ceb7cec7ced7cee7cf07cf17cf27cf37cf47cf57cf67cf77cf97cfa7cfc7cfd7cfe7cff7d007d017d027d037d047d057d067d077d087d097d0b7d0c7d0d7d0e7d0f7d107d117d127d137d147d157d167d177d187d197d1a7d1b7d1c7d1d7d1e7d1f7d217d237d247d257d267d287d297d2a7d2c7d2d7d2e7d307d317d327d337d347d357d36808c99658ff96fc08ba59e2159ec7ee97f095409678168d88f917c4d96c653ca602575be6c7253735ac97ea7632451e0810a5df184df628051805b634f0e796d524260b86d4e5bc45bc28ba18bb065e25fcc964559937ee77eaa560967b759394f735bb652a0835a988a8d3e753294be50477a3c4ef767b69a7e5ac16b7c76d1575a5c167b3a95f4714e517c80a9827059787f04832768c067ec78b1787762e363617b804fed526a51cf835069db92748df58d3189c1952e7bad4ef6,
0x7d377d387d397d3a7d3b7d3c7d3d7d3e7d3f7d407d417d427d437d447d457d467d477d487d497d4a7d4b7d4c7d4d7d4e7d4f7d507d517d527d537d547d557d567d577d587d597d5a7d5b7d5c7d5d7d5e7d5f7d607d617d627d637d647d657d667d677d687d697d6a7d6b7d6c7d6d7d6f7d707d717d727d737d747d757d767d787d797d7a7d7b7d7c7d7d7d7e7d7f7d807d817d827d837d847d857d867d877d887d897d8a7d8b7d8c7d8d7d8e7d8f7d907d917d927d937d947d957d967d977d98506582305251996f6e106e856da75efa50f559dc5c066d466c5f7586848b686859568bb253209171964d854969127901712680f64ea490ca6d479a845a0756bc640594f077eb4fa5811a72e189d2997a7f347ede527f655991758f7f8f8353eb7a9663ed63a5768679f888579636622a52ab8282685467706377776b7aed6d017ed389e359d0621285c982a5754c501f4ecb75a58beb5c4a5dfe7b4b65a491d14eca6d25895f7d2795264ec58c288fdb9773664b79818fd170ec6d78,
0x7d997d9a7d9b7d9c7d9d7d9e7d9f7da07da17da27da37da47da57da77da87da97daa7dab7dac7dad7daf7db07db17db27db37db47db57db67db77db87db97dba7dbb7dbc7dbd7dbe7dbf7dc07dc17dc27dc37dc47dc57dc67dc77dc87dc97dca7dcb7dcc7dcd7dce7dcf7dd07dd17dd27dd37dd47dd57dd67dd77dd87dd97dda7ddb7ddc7ddd7dde7ddf7de07de17de27de37de47de57de67de77de87de97dea7deb7dec7ded7dee7def7df07df17df27df37df47df57df67df77df87df97dfa5c3d52b283465162830e775b66769cb84eac60ca7cbe7cb37ecf4e958b66666f988897595883656c955c5f8475c997567adf7ade51c070af7a9863ea7a767ea0739697ed4e4570784e5d915253a9655165e781fc8205548e5c31759a97a062d872d975bd5c459a7983ca5c40548077e94e3e6cae805a62d2636e5de851778ddd8e1e952f4ff153e560e770ac526763509e435a1f5026773753777ee26485652b628963985014723589c951b38bc07edd574783cc94a7519b541b5cfb,
0x7dfb7dfc7dfd7dfe7dff7e007e017e027e037e047e057e067e077e087e097e0a7e0b7e0c7e0d7e0e7e0f7e107e117e127e137e147e157e167e177e187e197e1a7e1b7e1c7e1d7e1e7e1f7e207e217e227e237e247e257e267e277e287e297e2a7e2b7e2c7e2d7e2e7e2f7e307e317e327e337e347e357e367e377e387e397e3a7e3c7e3d7e3e7e3f7e407e427e437e447e457e467e487e497e4a7e4b7e4c7e4d7e4e7e4f7e507e517e527e537e547e557e567e577e587e597e5a7e5b7e5c7e5d4fca7ae36d5a90e19a8f55805496536154af5f0063e9697751ef6168520a582a52d8574e780d770b5eb761777ce0625b62974ea27095800362f770e49760577782db67ef68f578d5989779d158f354b353ef6e34514b523b5ba28bfe80af554357a660735751542d7a7a60505b5463a762a053e362635bc767af54ed7a9f82e691775e9388e4593857ae630e8de880ef57577b774fa95feb5bbd6b3e53217b5072c2684677ff773665f751b54e8f76d45cbf7aa58475594e9b415080,
0x7e5e7e5f7e607e617e627e637e647e657e667e677e687e697e6a7e6b7e6c7e6d7e6e7e6f7e707e717e727e737e747e757e767e777e787e797e7a7e7b7e7c7e7d7e7e7e7f7e807e817e837e847e857e867e877e887e897e8a7e8b7e8c7e8d7e8e7e8f7e907e917e927e937e947e957e967e977e987e997e9a7e9c7e9d7e9e7eae7eb47ebb7ebc7ed67ee47eec7ef97f0a7f107f1e7f377f397f3b7f3c7f3d7f3e7f3f7f407f417f437f467f477f487f497f4a7f4b7f4c7f4d7f4e7f4f7f527f53998861276e8357646606634656f062ec62695ed39614578362c955878721814a8fa3556683b167658d5684dd5a6a680f62e67bee961151706f9c8c3063fd89c861d27f0670c26ee57405699472fc5eca90ce67176d6a635e52b3726280014f6c59e5916a70d96d9d52d24e5096f7956d857e78ca7d2f5121579264c2808b7c7b6cea68f1695e51b7539868a872819ece7bf172f879bb6f137406674e91cc9ca4793c83898354540f68174e3d538952b1783e5386522950884f8b4fd0,
0x7f567f597f5b7f5c7f5d7f5e7f607f637f647f657f667f677f6b7f6c7f6d7f6f7f707f737f757f767f777f787f7a7f7b7f7c7f7d7f7f7f807f827f837f847f857f867f877f887f897f8b7f8d7f8f7f907f917f927f937f957f967f977f987f997f9b7f9c7fa07fa27fa37fa57fa67fa87fa97faa7fab7fac7fad7fae7fb17fb37fb47fb57fb67fb77fba7fbb7fbe7fc07fc27fc37fc47fc67fc77fc87fc97fcb7fcd7fcf7fd07fd17fd27fd37fd67fd77fd97fda7fdb7fdc7fdd7fde7fe27fe375e27acb7c926ca596b6529b748354e94fe9805483b28fde95705ec9601c6d9f5e18655b813894fe604b70bc7ec37cae51c968817cb1826f4e248f8691cf667e4eae8c0564a9804a50da759771ce5be58fbd6f664e86648295635ed66599521788c270c852a3730e7433679778f797164e3490bb9cde6dcb51db8d41541d62ce73b283f196f69f8494c34f367f9a51cc707596755cad988653e64ee46e9c740969b4786b998f7559521876246d4167f3516d9f99804b54997b3c7abf,
0x7fe47fe77fe87fea7feb7fec7fed7fef7ff27ff47ff57ff67ff77ff87ff97ffa7ffd7ffe7fff8002800780088009800a800e800f80118013801a801b801d801e801f802180238024802b802c802d802e802f8030803280348039803a803c803e8040804180448045804780488049804e804f8050805180538055805680578059805b805c805d805e805f806080618062806380648065806680678068806b806c806d806e806f807080728073807480758076807780788079807a807b807c807d9686578462e29647697c5a0464027bd36f0f964b82a6536298855e90708963b35364864f9c819e93788c97328def8d429e7f6f5e79845f559646622e9a74541594dd4fa365c55c655c617f1586516c2f5f8b73876ee47eff5ce6631b5b6a6ee653754e7163a0756562a18f6e4f264ed16ca67eb68bba841d87ba7f57903b95237ba99aa188f8843d6d1b9a867edc59889ebb739b780186829a6c9a82561b541757cb4e709ea653568fc881097792999286ee6ee1851366fc61626f2b,
0x807e8081808280858088808a808d808e808f8090809180928094809580978099809e80a380a680a780a880ac80b080b380b580b680b880b980bb80c580c780c880c980ca80cb80cf80d080d180d280d380d480d580d880df80e080e280e380e680ee80f580f780f980fb80fe80ff8100810181038104810581078108810b810c811581178119811b811c811d811f8120812181228123812481258126812781288129812a812b812d812e813081338134813581378139813a813b813c813d813f8c298292832b76f26c135fd983bd732b8305951a6bdb77db94c6536f830251925e3d8c8c8d384e4873ab679a68859176970971646ca177095a9295416bcf7f8e66275bd059b95a9a95e895f74eec840c84996aac76df9530731b68a65b5f772f919a97617cdc8ff78c1c5f257c7379d889c56ccc871c5bc65e4268c977207ef55195514d52c95a297f05976282d763cf778485d079d26e3a5e9959998511706d6c1162bf76bf654f60af95fd660e879f9e2394ed540d547d8c2c6478,
0x81408141814281438144814581478149814d814e814f8152815681578158815b815c815d815e815f816181628163816481668168816a816b816c816f8172817381758176817781788181818381848185818681878189818b818c818d818e81908192819381948195819681978199819a819e819f81a081a181a281a481a581a781a981ab81ac81ad81ae81af81b081b181b281b481b581b681b781b881b981bc81bd81be81bf81c481c581c781c881c981cb81cd81ce81cf81d081d181d281d3647986116a21819c78e864699b5462b9672b83ab58a89ed86cab6f205bde964c8c0b725f67d062c772614ea959c66bcd589366ae5e5552df6155672876ee776672677a4662ff54ea545094a090a35a1c7eb36c164e435976801059485357753796be56ca63208111607c95f96dd65462998151855ae980fd59ae9713502a6ce55c3c62df4f60533f817b90066eba852b62c85e7478be64b5637b5ff55a18917f9e1f5c3f634f80425b7d556e954a954d6d8560a867e072de51dd5b81,
0x81d481d581d681d781d881d981da81db81dc81dd81de81df81e081e181e281e481e581e681e881e981eb81ee81ef81f081f181f281f581f681f781f881f981fa81fd81ff8203820782088209820a820b820e820f8211821382158216821782188219821a821d822082248225822682278229822e8232823a823c823d823f8240824182428243824582468248824a824c824d824e825082518252825382548255825682578259825b825c825d825e82608261826282638264826582668267826962e76cde725b626d94ae7ebd81136d53519c5f04597452aa6012597366968650759f632a61e67cef8bfa54e66b279e256bb485d5545550766ca4556a8db4722c5e156015743662cd6392724c5f986e436d3e65006f5876d878d076fc7554522453db4e535e9e65c1802a80d6629b5486522870ae888d8dd16ce1547880da57f988f48d54966a914d4f696c9b55b776c6783062a870f96f8e5f6d84ec68da787c7bf781a8670b9e4f636778b0576f78129739627962ab528874356bd7,
0x826a826b826c826d82718275827682778278827b827c8280828182838285828682878289828c82908293829482958296829a829b829e82a082a282a382a782b282b582b682ba82bb82bc82bf82c082c282c382c582c682c982d082d682d982da82dd82e282e782e882e982ea82ec82ed82ee82f082f282f382f582f682f882fa82fc82fd82fe82ff8300830a830b830d831083128313831683188319831d831e831f83208321832283238324832583268329832a832e833083328337833b833d5564813e75b276ae533975de50fb5c418b6c7bc7504f72479a9798d86f0274e27968648777a562fc98918d2b54c180584e52576a82f9840d5e7351ed74f68bc45c4f57616cfc98875a4678349b448feb7c955256625194fa4ec68386846183e984b257d467345703666e6d668c3166dd7011671f6b3a6816621a59bb4e0351c46f0667d26c8f517668cb59476b6775665d0e81109f5065d7794879419a918d775c824e5e4f01542f5951780c56686c148fc45f036c7d6ce38bab6390,
0x833e833f83418342834483458348834a834b834c834d834e835383558356835783588359835d836283708371837283738374837583768379837a837e837f8380838183828383838483878388838a838b838c838d838f8390839183948395839683978399839a839d839f83a183a283a383a483a583a683a783ac83ad83ae83af83b583bb83be83bf83c283c383c483c683c883c983cb83cd83ce83d083d183d283d383d583d783d983da83db83de83e283e383e483e683e783e883eb83ec83ed60706d3d72756266948e94c553438fc17b7e4edf8c264e7e9ed494b194b3524d6f5c90636d458c3458115d4c6b206b4967aa545b81547f8c589985375f3a62a26a47953965726084686577a74e544fa85de7979864ac7fd85ced4fcf7a8d520783044e14602f7a8394a64fb54eb279e6743452e482b964d279bd5bdd6c8197528f7b6c22503e537f6e0564ce66746c3060c598778bf75e86743c7a7779cb4e1890b174036c4256da914b6cc58d8b533a86c666f28eaf5c489a716e20,
0x83ee83ef83f383f483f583f683f783fa83fb83fc83fe83ff840084028405840784088409840a84108412841384148415841684178419841a841b841e841f84208421842284238429842a842b842c842d842e842f84308432843384348435843684378439843a843b843e843f844084418442844384448445844784488449844a844b844c844d844e844f8450845284538454845584568458845d845e845f8460846284648465846684678468846a846e846f84708472847484778479847b847c53d65a369f8b8da353bb570898a76743919b6cc9516875ca62f372ac5238529d7f3a7094763853749e4a69b7786e96c088d97fa4713671c3518967d374e458e4651856b78ba9997662707ed560f970ed58ec4ec14eba5fcd97e74efb8ba45203598a7eab62544ecd65e5620e833884c98363878d71946eb65bb97ed2519763c967d480898339881551125b7a59828fb14e736c5d516589258f6f962e854a745e951095f06da682e55f3164926d128428816e9cc3585e8d5b4e0953c1,
0x847d847e847f848084818483848484858486848a848d848f84908491849284938494849584968498849a849b849d849e849f84a084a284a384a484a584a684a784a884a984aa84ab84ac84ad84ae84b084b184b384b584b684b784bb84bc84be84c084c284c384c584c684c784c884cb84cc84ce84cf84d284d484d584d784d884d984da84db84dc84de84e184e284e484e784e884e984ea84eb84ed84ee84ef84f184f284f384f484f584f684f784f884f984fa84fb84fd84fe8500850185024f1e6563685155d34e2764149a9a626b5ac2745f82726da968ee50e7838e7802674052396c997eb150bb5565715e7b5b665273ca82eb67495c715220717d886b95ea965564c58d6181b355846c5562477f2e58924f2455468d4f664c4e0a5c1a88f368a2634e7a0d70e7828d52fa97f65c1154e890b57ecd59628d4a86c7820c820d8d6664445c0461516d89793e8bbe78377533547b4f388eab6df15a207ec5795e6c885ba15a76751a80be614e6e1758f0751f7525727253477ef3,
0x8503850485058506850785088509850a850b850d850e850f8510851285148515851685188519851b851c851d851e852085228523852485258526852785288529852a852d852e852f8530853185328533853485358536853e853f8540854185428544854585468547854b854c854d854e854f85508551855285538554855585578558855a855b855c855d855f85608561856285638565856685678569856a856b856c856d856e856f8570857185738575857685778578857c857d857f85808581770176db526980dc57235e08593172ee65bd6e7f8bd75c388671534177f362fe65f64ec098df86805b9e8bc653f277e24f7f5c4e9a7659cb5f0f793a58eb4e1667ff4e8b62ed8a93901d52bf662f55dc566c90024ed54f8d91ca99706c0f5e0260435ba489c68bd56536624b99965b885bff6388552e53d77626517d852c67a268b36b8a62928f9353d482126dd1758f4e668d4e5b70719f85af669166d97f7287009ecd9f205c5e672f8ff06811675f620d7ad658855eb665706f31,
0x85828583858685888589858a858b858c858d858e8590859185928593859485958596859785988599859a859d859e859f85a085a185a285a385a585a685a785a985ab85ac85ad85b185b285b385b485b585b685b885ba85bb85bc85bd85be85bf85c085c285c385c485c585c685c785c885ca85cb85cc85cd85ce85d185d285d485d685d785d885d985da85db85dd85de85df85e085e185e285e385e585e685e785e885ea85eb85ec85ed85ee85ef85f085f185f285f385f485f585f685f785f860555237800d6454887075295e05681362f4971c53cc723d8c016c3477617a0e542e77ac987a821c8bf47855671470c165af64955636601d79c153f84e1d6b7b80865bfa55e356db4f3a4f3c99725df3677e80386002988290015b8b8bbc8bf5641c825864de55fd82cf91654fd77d20901f7c9f50f358516eaf5bbf8bc980839178849c7b97867d968b968f7ee59ad3788e5c817a57904296a7795f5b59635f7b0b84d168ad55067f2974107d2295016240584c4ed65b8359795854,
0x85f985fa85fc85fd85fe860086018602860386048606860786088609860a860b860c860d860e860f86108612861386148615861786188619861a861b861c861d861e861f86208621862286238624862586268628862a862b862c862d862e862f863086318632863386348635863686378639863a863b863d863e863f8640864186428643864486458646864786488649864a864b864c8652865386558656865786588659865b865c865d865f866086618663866486658666866786688669866a736d631e8e4b8e0f80ce82d462ac53f06cf0915e592a60016c70574d644a8d2a762b6ee9575b6a8075f06f6d8c2d8c0857666bef889278b363a253f970ad6c645858642a580268e0819b55107cd650188eba6dcc8d9f70eb638f6d9b6ed47ee68404684390036dd896768ba85957727985e4817e75bc8a8a68af52548e22951163d098988e44557c4f5366ff568f60d56d9552435c4959296dfb586b7530751c606c82148146631167618fe2773a8df38d3494c15e165385542c70c3,
0x866d866f867086728673867486758676867786788683868486858686868786888689868e868f86908691869286948696869786988699869a869b869e869f86a086a186a286a586a686ab86ad86ae86b286b386b786b886b986bb86bc86bd86be86bf86c186c286c386c586c886cc86cd86d286d386d586d686d786da86dc86dd86e086e186e286e386e586e686e786e886ea86eb86ec86ef86f586f686f786fa86fb86fc86fd86ff8701870487058706870b870c870e870f87108711871487166c405ef7505c4ead5ead633a8247901a6850916e77b3540c94dc5f647ae5687663457b527edf75db507762955934900f51f879c37a8156fe5f9290146d825c60571f541051546e4d56e263a89893817f8715892a9000541e5c6f81c062d6625881319e3596409a6e9a7c692d59a562d3553e631654c786d96d3c5a0374e6889c6b6a59168c4c5f2f6e7e73a9987d4e3870f75b8c7897633d665a769660cb5b9b5a494e0781556c6a738b4ea167897f515f8065fa671b5fd859845a01,
0x8719871b871d871f87208724872687278728872a872b872c872d872f8730873287338735873687388739873a873c873d8740874187428743874487458746874a874b874d874f8750875187528754875587568758875a875b875c875d875e875f876187628766876787688769876a876b876c876d876f8771877287738775877787788779877a877f878087818784878687878789878a878c878e878f87908791879287948795879687988799879a879b879c879d879e87a087a187a287a387a45dcd5fae537197e68fdd684556f4552f60df4e3a6f4d7ef482c7840e59d44f1f4f2a5c3e7eac672a851a5473754f80c355829b4f4f4d6e2d8c135c096170536b761f6e29868a658795fb7eb9543b7a337d0a95ee55e17fc174ee631d87176da17a9d621165a1536763e16c835deb545c94a84e4c6c618bec5c4b65e0829c68a7543e54346bcb6b664e9463425348821e4f0d4fae575e620a96fe6664726952ff52a1609f8bef661471996790897f785277fd6670563b54389521727a,
0x87a587a687a787a987aa87ae87b087b187b287b487b687b787b887b987bb87bc87be87bf87c187c287c387c487c587c787c887c987cc87cd87ce87cf87d087d487d587d687d787d887d987da87dc87dd87de87df87e187e287e387e487e687e787e887e987eb87ec87ed87ef87f087f187f287f387f487f587f687f787f887fa87fb87fc87fd87ff880088018802880488058806880788088809880b880c880d880e880f8810881188128814881788188819881a881c881d881e881f882088237a00606f5e0c6089819d591560dc718470ef6eaa6c5072806a8488ad5e2d4e605ab3559c94e36d177cfb9699620f7ec6778e867e5323971e8f9666875ce14fa072ed4e0b53a6590f54136380952851484ed99c9c7ea454b88d248854823795f26d8e5f265acc663e966973b0732e53bf817a99857fa15baa967796507ebf76f853a2957699997bb189446e584e617fd479658be660f354cd4eab98795df76a6150cf54118c618427785d9704524a54ee56a395006d885bb56dc66653,
0x882488258826882788288829882a882b882c882d882e882f88308831883388348835883688378838883a883b883d883e883f8841884288438846884788488849884a884b884e884f8850885188528853885588568858885a885b885c885d885e885f886088668867886a886d886f8871887388748875887688788879887a887b887c88808883888688878889888a888c888e888f88908891889388948895889788988899889a889b889d889e889f88a088a188a388a588a688a788a888a988aa5c0f5b5d6821809655787b11654869544e9b6b47874e978b534f631f643a90aa659c80c18c10519968b0537887f961c86cc46cfb8c225c5185aa82af950c6b238f9b65b05ffb5fc34fe18845661f8165732960fa51745211578b5f6290a2884c91925e78674f602759d3514451f680f853086c7996c4718a4f114fee7f9e673d55c5950879c088967ee3589f620c9700865a5618987b5f908bb884c4915753d965ed5e8f755c60647d6e5a7f7eea7eed8f6955a75ba360ac65cb7384,
0x88ac88ae88af88b088b288b388b488b588b688b888b988ba88bb88bd88be88bf88c088c388c488c788c888ca88cb88cc88cd88cf88d088d188d388d688d788da88db88dc88dd88de88e088e188e688e788e988ea88eb88ec88ed88ee88ef88f288f588f688f788fa88fb88fd88ff890089018903890489058906890789088909890b890c890d890e890f891189148915891689178918891c891d891e891f89208922892389248926892789288929892c892d892e892f893189328933893589379009766377297eda9774859b5b667a7496ea884052cb718f5faa65ec8be25bfb9a6f5de16b896c5b8bad8baf900a8fc5538b62bc9e269e2d54404e2b82bd7259869c5d1688596daf96c554d14e9a8bb6710954bd960970df6df976d04e25781487125ca95ef68a00989c960e708e6cbf594463a9773c884d6f148273583071d5538c781a96c155015f6671305bb48c1a9a8c6b83592e9e2f79e76768626c4f6f75a17f8a6d0b96336c274ef075d2517b68376f3e9080817059967476,
0x89388939893a893b893c893d893e893f89408942894389458946894789488949894a894b894c894d894e894f8950895189528953895489558956895789588959895a895b895c895d896089618962896389648965896789688969896a896b896c896d896e896f8970897189728973897489758976897789788979897a897c897d897e8980898289848985898789888989898a898b898c898d898e898f8990899189928993899489958996899789988999899a899b899c899d899e899f89a089a164475c2790657a918c2359da54ac8200836f898180006930564e8036723791ce51b64e5f987563964e1a53f666f3814b591c6db24e0058f9533b63d694f14f9d4f0a886398905937905779fb4eea80f075916c825b9c59e85f5d69058681501a5df24e5977e34ee5827a6291661390915c794ebf5f7981c69038808475ab4ea688d4610f6bc55fc64e4976ca6ea28be38bae8c0a8bd15f027ffc7fcc7ece8335836b56e06bb797f3963459fb541f94f66deb5bc5996e5c395f159690,
0x89a289a389a489a589a689a789a889a989aa89ab89ac89ad89ae89af89b089b189b289b389b489b589b689b789b889b989ba89bb89bc89bd89be89bf89c089c389cd89d389d489d589d789d889d989db89dd89df89e089e189e289e489e789e889e989ea89ec89ed89ee89f089f189f289f489f589f689f789f889f989fa89fb89fc89fd89fe89ff8a018a028a038a048a058a068a088a098a0a8a0b8a0c8a0d8a0e8a0f8a108a118a128a138a148a158a168a178a188a198a1a8a1b8a1c8a1d537082f16a315a749e705e947f2883b984248425836787478fce8d6276c85f719896786c662054df62e54f6381c375c85eb896cd8e0a86f9548f6cf36d8c6c38607f52c775285e7d4f1860a05fe75c24753190ae94c072b96cb96e389149670953cb53f34f5191c98bf153c85e7c8fc26de44e8e76c26986865e611a82064f594fde903e9c7c61096e1d6e1496854e885a3196e84e0e5c7f79b95b878bed7fbd738957df828b90c15401904755bb5cea5fa161086b3272f180b28a89,
0x8a1e8a1f8a208a218a228a238a248a258a268a278a288a298a2a8a2b8a2c8a2d8a2e8a2f8a308a318a328a338a348a358a368a378a388a398a3a8a3b8a3c8a3d8a3f8a408a418a428a438a448a458a468a478a498a4a8a4b8a4c8a4d8a4e8a4f8a508a518a528a538a548a558a568a578a588a598a5a8a5b8a5c8a5d8a5e8a5f8a608a618a628a638a648a658a668a678a688a698a6a8a6b8a6c8a6d8a6e8a6f8a708a718a728a738a748a758a768a778a788a7a8a7b8a7c8a7d8a7e8a7f8a806d745bd388d598848c6b9a6d9e336e0a51a4514357a38881539f63f48f9556ed54585706733f6e907f188fdc82d1613f6028966266f07ea68d8a8dc394a55cb37ca4670860a6960580184e9190e75300966851418fd08574915d665597f55b55531d78386742683d54c9707e5bb08f7d518d572854b1651266828d5e8d43810f846c906d7cdf51ff85fb67a365e96fa186a48e81566a90207682707671e58d2362e952196cfd8d3c600e589e618e66fe8d60624e55b36e23672d8f67,
0x8a818a828a838a848a858a868a878a888a8b8a8c8a8d8a8e8a8f8a908a918a928a948a958a968a978a988a998a9a8a9b8a9c8a9d8a9e8a9f8aa08aa18aa28aa38aa48aa58aa68aa78aa88aa98aaa8aab8aac8aad8aae8aaf8ab08ab18ab28ab38ab48ab58ab68ab78ab88ab98aba8abb8abc8abd8abe8abf8ac08ac18ac28ac38ac48ac58ac68ac78ac88ac98aca8acb8acc8acd8ace8acf8ad08ad18ad28ad38ad48ad58ad68ad78ad88ad98ada8adb8adc8add8ade8adf8ae08ae18ae28ae394e195f87728680569a8548b4e4d70b88bc86458658b5b857a84503a5be877bb6be18a797c986cbe76cf65a98f975d2d5c5586386808536062187ad96e5b7efd6a1f7ae05f706f335f20638c6da867564e085e108d264ed780c07634969c62db662d627e6cbc8d7571677f695146808753ec906e629854f286f08f998005951785178fd96d5973cd659f771f7504782781fb8d1e94884fa6679575b98bca9707632f9547963584b8632377415f8172f04e896014657462ef6b63653f,
0x8ae48ae58ae68ae78ae88ae98aea8aeb8aec8aed8aee8aef8af08af18af28af38af48af58af68af78af88af98afa8afb8afc8afd8afe8aff8b008b018b028b038b048b058b068b088b098b0a8b0b8b0c8b0d8b0e8b0f8b108b118b128b138b148b158b168b178b188b198b1a8b1b8b1c8b1d8b1e8b1f8b208b218b228b238b248b258b278b288b298b2a8b2b8b2c8b2d8b2e8b2f8b308b318b328b338b348b358b368b378b388b398b3a8b3b8b3c8b3d8b3e8b3f8b408b418b428b438b448b455e2775c790d18bc1829d679d652f5431871877e580a281026c414e4b7ec7804c76f4690d6b966267503c4f84574063076b628dbe53ea65e87eb85fd7631a63b781f381f47f6e5e1c5cd95236667a79e97a1a8d28709975d46ede6cbb7a924e2d76c55fe0949f88777ec879cd80bf91cd4ef24f17821f54685dde6d328bcc7ca58f7480985e1a549276b15b99663c9aa473e0682a86db6731732a8bf88bdb90107af970db716e62c477a956314e3b845767f152a986c08d2e94f87b51,
0x8b468b478b488b498b4a8b4b8b4c8b4d8b4e8b4f8b508b518b528b538b548b558b568b578b588b598b5a8b5b8b5c8b5d8b5e8b5f8b608b618b628b638b648b658b678b688b698b6a8b6b8b6d8b6e8b6f8b708b718b728b738b748b758b768b778b788b798b7a8b7b8b7c8b7d8b7e8b7f8b808b818b828b838b848b858b868b878b888b898b8a8b8b8b8c8b8d8b8e8b8f8b908b918b928b938b948b958b968b978b988b998b9a8b9b8b9c8b9d8b9e8b9f8bac8bb18bbb8bc78bd08bea8c098c1e4f4f6ce8795d9a7b6293722a62fd4e1378168f6c64b08d5a7bc668695e8488c55986649e58ee72b6690e95258ffd8d5857607f008c0651c6634962d95353684c74228301914c55447740707c6d4a517954a88d4459ff6ecb6dc45b5c7d2b4ed47c7d6ed35b5081ea6e0d5b579b0368d58e2a5b977efc603b7eb590b98d70594f63cd79df8db3535265cf79568bc5963b7ec494bb7e825634918967007f6a5c0a907566285de64f5067de505a4f5c57505ea7e810e811e812e813e814,
0x8c388c398c3a8c3b8c3c8c3d8c3e8c3f8c408c428c438c448c458c488c4a8c4b8c4d8c4e8c4f8c508c518c528c538c548c568c578c588c598c5b8c5c8c5d8c5e8c5f8c608c638c648c658c668c678c688c698c6c8c6d8c6e8c6f8c708c718c728c748c758c768c778c7b8c7c8c7d8c7e8c7f8c808c818c838c848c868c878c888c8b8c8d8c8e8c8f8c908c918c928c938c958c968c978c998c9a8c9b8c9c8c9d8c9e8c9f8ca08ca18ca28ca38ca48ca58ca68ca78ca88ca98caa8cab8cac8cad4e8d4e0c51404e105eff53454e154e984e1e9b325b6c56694e2879ba4e3f53154e47592d723b536e6c1056df80e499976bd3777e9f174e364e9f9f104e5c4e694e9382885b5b556c560f4ec4538d539d53a353a553ae97658d5d531a53f55326532e533e8d5c5366536352025208520e522d5233523f5240524c525e5261525c84af527d528252815290529351827f544ebb4ec34ec94ec24ee84ee14eeb4ede4f1b4ef34f224f644ef54f254f274f094f2b4f5e4f6765384f5a4f5d,
0x8cae8caf8cb08cb18cb28cb38cb48cb58cb68cb78cb88cb98cba8cbb8cbc8cbd8cbe8cbf8cc08cc18cc28cc38cc48cc58cc68cc78cc88cc98cca8ccb8ccc8ccd8cce8ccf8cd08cd18cd28cd38cd48cd58cd68cd78cd88cd98cda8cdb8cdc8cdd8cde8cdf8ce08ce18ce28ce38ce48ce58ce68ce78ce88ce98cea8ceb8cec8ced8cee8cef8cf08cf18cf28cf38cf48cf58cf68cf78cf88cf98cfa8cfb8cfc8cfd8cfe8cff8d008d018d028d038d048d058d068d078d088d098d0a8d0b8d0c8d0d4f5f4f574f324f3d4f764f744f914f894f834f8f4f7e4f7b4faa4f7c4fac4f944fe64fe84fea4fc54fda4fe34fdc4fd14fdf4ff85029504c4ff3502c500f502e502d4ffe501c500c50255028507e504350555048504e506c507b50a550a750a950ba50d6510650ed50ec50e650ee5107510b4edd6c3d4f584f654fce9fa06c467c74516e5dfd9ec999985181591452f9530d8a07531051eb591951554ea051564eb3886e88a44eb5811488d279805b3488037fb851ab51b151bd51bc,
0x8d0e8d0f8d108d118d128d138d148d158d168d178d188d198d1a8d1b8d1c8d208d518d528d578d5f8d658d688d698d6a8d6c8d6e8d6f8d718d728d788d798d7a8d7b8d7c8d7d8d7e8d7f8d808d828d838d868d878d888d898d8c8d8d8d8e8d8f8d908d928d938d958d968d978d988d998d9a8d9b8d9c8d9d8d9e8da08da18da28da48da58da68da78da88da98daa8dab8dac8dad8dae8daf8db08db28db68db78db98dbb8dbd8dc08dc18dc28dc58dc78dc88dc98dca8dcd8dd08dd28dd38dd451c7519651a251a58ba08ba68ba78baa8bb48bb58bb78bc28bc38bcb8bcf8bce8bd28bd38bd48bd68bd88bd98bdc8bdf8be08be48be88be98bee8bf08bf38bf68bf98bfc8bff8c008c028c048c078c0c8c0f8c118c128c148c158c168c198c1b8c188c1d8c1f8c208c218c258c278c2a8c2b8c2e8c2f8c328c338c358c365369537a961d962296219631962a963d963c964296499654965f9667966c967296749688968d969796b09097909b909d909990ac90a190b490b390b690ba,
0x8dd58dd88dd98ddc8de08de18de28de58de68de78de98ded8dee8df08df18df28df48df68dfc8dfe8dff8e008e018e028e038e048e068e078e088e0b8e0d8e0e8e108e118e128e138e158e168e178e188e198e1a8e1b8e1c8e208e218e248e258e268e278e288e2b8e2d8e308e328e338e348e368e378e388e3b8e3c8e3e8e3f8e438e458e468e4c8e4d8e4e8e4f8e508e538e548e558e568e578e588e5a8e5b8e5c8e5d8e5e8e5f8e608e618e628e638e648e658e678e688e6a8e6b8e6e8e7190b890b090cf90c590be90d090c490c790d390e690e290dc90d790db90eb90ef90fe91049122911e91239131912f913991439146520d594252a252ac52ad52be54ff52d052d652f053df71ee77cd5ef451f551fc9b2f53b65f01755a5def574c57a957a1587e58bc58c558d15729572c572a57335739572e572f575c573b574257695785576b5786577c577b5768576d5776577357ad57a4578c57b257cf57a757b4579357a057d557d857da57d957d257b857f457ef57f857e457dd,
0x8e738e758e778e788e798e7a8e7b8e7d8e7e8e808e828e838e848e868e888e898e8a8e8b8e8c8e8d8e8e8e918e928e938e958e968e978e988e998e9a8e9b8e9d8e9f8ea08ea18ea28ea38ea48ea58ea68ea78ea88ea98eaa8ead8eae8eb08eb18eb38eb48eb58eb68eb78eb88eb98ebb8ebc8ebd8ebe8ebf8ec08ec18ec28ec38ec48ec58ec68ec78ec88ec98eca8ecb8ecc8ecd8ecf8ed08ed18ed28ed38ed48ed58ed68ed78ed88ed98eda8edb8edc8edd8ede8edf8ee08ee18ee28ee38ee4580b580d57fd57ed5800581e5819584458205865586c58815889589a588099a89f1961ff8279827d827f828f828a82a88284828e82918297829982ab82b882be82b082c882ca82e3829882b782ae82cb82cc82c182a982b482a182aa829f82c482ce82a482e1830982f782e4830f830782dc82f482d282d8830c82fb82d38311831a83068314831582e082d5831c8351835b835c83088392833c83348331839b835e832f834f83478343835f834083178360832d833a833383668365,
0x8ee58ee68ee78ee88ee98eea8eeb8eec8eed8eee8eef8ef08ef18ef28ef38ef48ef58ef68ef78ef88ef98efa8efb8efc8efd8efe8eff8f008f018f028f038f048f058f068f078f088f098f0a8f0b8f0c8f0d8f0e8f0f8f108f118f128f138f148f158f168f178f188f198f1a8f1b8f1c8f1d8f1e8f1f8f208f218f228f238f248f258f268f278f288f298f2a8f2b8f2c8f2d8f2e8f2f8f308f318f328f338f348f358f368f378f388f398f3a8f3b8f3c8f3d8f3e8f3f8f408f418f428f438f448368831b8369836c836a836d836e83b0837883b383b483a083aa8393839c8385837c83b683a9837d83b8837b8398839e83a883ba83bc83c1840183e583d858078418840b83dd83fd83d6841c84388411840683d483df840f840383f883f983ea83c583c0842683f083e1845c8451845a8459847384878488847a84898478843c844684698476848c848e8431846d84c184cd84d084e684bd84d384ca84bf84ba84e084a184b984b4849784e584e3850c750d853884f08539851f853a,
0x8f458f468f478f488f498f4a8f4b8f4c8f4d8f4e8f4f8f508f518f528f538f548f558f568f578f588f598f5a8f5b8f5c8f5d8f5e8f5f8f608f618f628f638f648f658f6a8f808f8c8f928f9d8fa08fa18fa28fa48fa58fa68fa78faa8fac8fad8fae8faf8fb28fb38fb48fb58fb78fb88fba8fbb8fbc8fbf8fc08fc38fc68fc98fca8fcb8fcc8fcd8fcf8fd28fd68fd78fda8fe08fe18fe38fe78fec8fef8ff18ff28ff48ff58ff68ffa8ffb8ffc8ffe8fff90079008900c900e9013901590188556853b84ff84fc8559854885688564855e857a77a285438572857b85a485a88587858f857985ae859c858585b985b785b085d385c185dc85ff8627860586298616863c5efe5f08593c594180375955595a5958530f5c225c255c2c5c34624c626a629f62bb62ca62da62d762ee632262f66339634b634363ad63f66371637a638e63b4636d63ac638a636963ae63bc63f263f863e063ff63c463de63ce645263c663be64456441640b641b6420640c64266421645e6484646d6496,
0x9019901c902390249025902790289029902a902b902c9030903190329033903490379039903a903d903f904090439045904690489049904a904b904c904e9054905590569059905a905c905d905e905f906090619064906690679069906a906b906c906f90709071907290739076907790789079907a907b907c907e908190849085908690879089908a908c908d908e908f90909092909490969098909a909c909e909f90a090a490a590a790a890a990ab90ad90b290b790bc90bd90bf90c0647a64b764b8649964ba64c064d064d764e464e265096525652e5f0b5fd275195f11535f53f153fd53e953e853fb541254165406544b545254535454545654435421545754595423543254825494547754715464549a549b548454765466549d54d054ad54c254b454d254a754a654d354d4547254a354d554bb54bf54cc54d954da54dc54a954aa54a454dd54cf54de551b54e7552054fd551454f355225523550f55115527552a5567558f55b55549556d55415555553f5550553c,
0x90c290c390c690c890c990cb90cc90cd90d290d490d590d690d890d990da90de90df90e090e390e490e590e990ea90ec90ee90f090f190f290f390f590f690f790f990fa90fb90fc90ff91009101910391059106910791089109910a910b910c910d910e910f911091119112911391149115911691179118911a911b911c911d911f91209121912491259126912791289129912a912b912c912d912e91309132913391349135913691379138913a913b913c913d913e913f91409141914291445537555655755576557755335530555c558b55d2558355b155b955885581559f557e55d65591557b55df55bd55be5594559955ea55f755c9561f55d155eb55ec55d455e655dd55c455ef55e555f255f355cc55cd55e855f555e48f94561e5608560c56015624562355fe56005627562d565856395657562c564d56625659565c564c5654568656645671566b567b567c5685569356af56d456d756dd56e156f556eb56f956ff5704570a5709571c5e0f5e195e145e115e315e3b5e3c,
0x9145914791489151915391549155915691589159915b915c915f9160916691679168916b916d9173917a917b917c9180918191829183918491869188918a918e918f9193919491959196919791989199919c919d919e919f91a091a191a491a591a691a791a891a991ab91ac91b091b191b291b391b691b791b891b991bb91bc91bd91be91bf91c091c191c291c391c491c591c691c891cb91d091d291d391d491d591d691d791d891d991da91db91dd91de91df91e091e191e291e391e491e55e375e445e545e5b5e5e5e615c8c5c7a5c8d5c905c965c885c985c995c915c9a5c9c5cb55ca25cbd5cac5cab5cb15ca35cc15cb75cc45cd25ce45ccb5ce55d025d035d275d265d2e5d245d1e5d065d1b5d585d3e5d345d3d5d6c5d5b5d6f5d5d5d6b5d4b5d4a5d695d745d825d995d9d8c735db75dc55f735f775f825f875f895f8c5f955f995f9c5fa85fad5fb55fbc88625f6172ad72b072b472b772b872c372c172ce72cd72d272e872ef72e972f272f472f7730172f3730372fa,
0x91e691e791e891e991ea91eb91ec91ed91ee91ef91f091f191f291f391f491f591f691f791f891f991fa91fb91fc91fd91fe91ff9200920192029203920492059206920792089209920a920b920c920d920e920f9210921192129213921492159216921792189219921a921b921c921d921e921f9220922192229223922492259226922792289229922a922b922c922d922e922f9230923192329233923492359236923792389239923a923b923c923d923e923f92409241924292439244924572fb731773137321730a731e731d7315732273397325732c733873317350734d73577360736c736f737e821b592598e7592459029963996799689969996a996b996c99749977997d998099849987998a998d999099919993999499955e805e915e8b5e965ea55ea05eb95eb55ebe5eb38d535ed25ed15edb5ee85eea81ba5fc45fc95fd65fcf60035fee60045fe15fe45ffe600560065fea5fed5ff8601960356026601b600f600d6029602b600a603f602160786079607b607a6042,
0x9246924792489249924a924b924c924d924e924f9250925192529253925492559256925792589259925a925b925c925d925e925f9260926192629263926492659266926792689269926a926b926c926d926e926f927092719272927392759276927792789279927a927b927c927d927e927f9280928192829283928492859286928792889289928a928b928c928d928f9290929192929293929492959296929792989299929a929b929c929d929e929f92a092a192a292a392a492a592a692a7606a607d6096609a60ad609d60836092608c609b60ec60bb60b160dd60d860c660da60b4612061266115612360f46100610e612b614a617561ac619461a761b761d461f55fdd96b395e995eb95f195f395f595f695fc95fe9603960496069608960a960b960c960d960f96129615961696179619961a4e2c723f62156c356c546c5c6c4a6ca36c856c906c946c8c6c686c696c746c766c866ca96cd06cd46cad6cf76cf86cf16cd76cb26ce06cd66cfa6ceb6cee6cb16cd36cef6cfe,
0x92a892a992aa92ab92ac92ad92af92b092b192b292b392b492b592b692b792b892b992ba92bb92bc92bd92be92bf92c092c192c292c392c492c592c692c792c992ca92cb92cc92cd92ce92cf92d092d192d292d392d492d592d692d792d892d992da92db92dc92dd92de92df92e092e192e292e392e492e592e692e792e892e992ea92eb92ec92ed92ee92ef92f092f192f292f392f492f592f692f792f892f992fa92fb92fc92fd92fe92ff93009301930293039304930593069307930893096d396d276d0c6d436d486d076d046d196d0e6d2b6d4d6d2e6d356d1a6d4f6d526d546d336d916d6f6d9e6da06d5e6d936d946d5c6d606d7c6d636e1a6dc76dc56dde6e0e6dbf6de06e116de66ddd6dd96e166dab6e0c6dae6e2b6e6e6e4e6e6b6eb26e5f6e866e536e546e326e256e446edf6eb16e986ee06f2d6ee26ea56ea76ebd6ebb6eb76ed76eb46ecf6e8f6ec26e9f6f626f466f476f246f156ef96f2f6f366f4b6f746f2a6f096f296f896f8d6f8c6f786f726f7c6f7a6fd1,
0x930a930b930c930d930e930f9310931193129313931493159316931793189319931a931b931c931d931e931f9320932193229323932493259326932793289329932a932b932c932d932e932f9330933193329333933493359336933793389339933a933b933c933d933f9340934193429343934493459346934793489349934a934b934c934d934e934f9350935193529353935493559356935793589359935a935b935c935d935e935f9360936193629363936493659366936793689369936b6fc96fa76fb96fb66fc26fe16fee6fde6fe06fef701a7023701b70397035704f705e5b805b845b955b935ba55bb8752f9a9e64345be45bee89305bf08e478b078fb68fd38fd58fe58fee8fe48fe98fe68ff38fe890059004900b90269011900d9016902190359036902d902f9044905190529050906890589062905b66b99074907d908290889083908b5f505f575f565f585c3b54ab5c505c595b715c635c667fbc5f2a5f295f2d82745f3c9b3b5c6e59815983598d59a959aa59a3,
0x936c936d936e936f9370937193729373937493759376937793789379937a937b937c937d937e937f9380938193829383938493859386938793889389938a938b938c938d938e9390939193929393939493959396939793989399939a939b939c939d939e939f93a093a193a293a393a493a593a693a793a893a993aa93ab93ac93ad93ae93af93b093b193b293b393b493b593b693b793b893b993ba93bb93bc93bd93be93bf93c093c193c293c393c493c593c693c793c893c993cb93cc93cd599759ca59ab599e59a459d259b259af59d759be5a055a0659dd5a0859e359d859f95a0c5a095a325a345a115a235a135a405a675a4a5a555a3c5a625a7580ec5aaa5a9b5a775a7a5abe5aeb5ab25ad25ad45ab85ae05ae35af15ad65ae65ad85adc5b095b175b165b325b375b405c155c1c5b5a5b655b735b515b535b629a759a779a789a7a9a7f9a7d9a809a819a859a889a8a9a909a929a939a969a989a9b9a9c9a9d9a9f9aa09aa29aa39aa59aa77e9f7ea17ea37ea57ea87ea9,
0x93ce93cf93d093d193d293d393d493d593d793d893d993da93db93dc93dd93de93df93e093e193e293e393e493e593e693e793e893e993ea93eb93ec93ed93ee93ef93f093f193f293f393f493f593f693f793f893f993fa93fb93fc93fd93fe93ff9400940194029403940494059406940794089409940a940b940c940d940e940f9410941194129413941494159416941794189419941a941b941c941d941e941f9420942194229423942494259426942794289429942a942b942c942d942e7ead7eb07ebe7ec07ec17ec27ec97ecb7ecc7ed07ed47ed77edb7ee07ee17ee87eeb7eee7eef7ef17ef27f0d7ef67efa7efb7efe7f017f027f037f077f087f0b7f0c7f0f7f117f127f177f197f1c7f1b7f1f7f217f227f237f247f257f267f277f2a7f2b7f2c7f2d7f2f7f307f317f327f337f355e7a757f5ddb753e9095738e739173ae73a2739f73cf73c273d173b773b373c073c973c873e573d9987c740a73e973e773de73ba73f2740f742a745b7426742574287430742e742c,
0x942f9430943194329433943494359436943794389439943a943b943c943d943f9440944194429443944494459446944794489449944a944b944c944d944e944f9450945194529453945494559456945794589459945a945b945c945d945e945f9460946194629463946494659466946794689469946a946c946d946e946f9470947194729473947494759476947794789479947a947b947c947d947e947f9480948194829483948494919496949894c794cf94d394d494da94e694fb951c9520741b741a7441745c7457745574597477746d747e749c748e748074817487748b749e74a874a9749074a774d274ba97ea97eb97ec674c6753675e6748676967a56787676a6773679867a7677567a8679e67ad678b6777677c67f0680967d8680a67e967b0680c67d967b567da67b367dd680067c367b867e2680e67c167fd6832683368606861684e6862684468646883681d68556866684168676840683e684a6849682968b5688f687468776893686b68c2696e68fc691f692068f9,
0x95279533953d95439548954b9555955a9560956e95749575957795789579957a957b957c957d957e9580958195829583958495859586958795889589958a958b958c958d958e958f9590959195929593959495959596959795989599959a959b959c959d959e959f95a095a195a295a395a495a595a695a795a895a995aa95ab95ac95ad95ae95af95b095b195b295b395b495b595b695b795b895b995ba95bb95bc95bd95be95bf95c095c195c295c395c495c595c695c795c895c995ca95cb692468f0690b6901695768e369106971693969606942695d6984696b698069986978693469cc6987698869ce6989696669636979699b69a769bb69ab69ad69d469b169c169ca69df699569e0698d69ff6a2f69ed6a176a186a6569f26a446a3e6aa06a506a5b6a356a8e6a796a3d6a286a586a7c6a916a906aa96a976aab733773526b816b826b876b846b926b936b8d6b9a6b9b6ba16baa8f6b8f6d8f718f728f738f758f768f788f778f798f7a8f7c8f7e8f818f828f848f878f8b,
0x95cc95cd95ce95cf95d095d195d295d395d495d595d695d795d895d995da95db95dc95dd95de95df95e095e195e295e395e495e595e695e795ec95ff960796139618961b961e96209623962496259626962796289629962b962c962d962f9630963796389639963a963e96419643964a964e964f9651965296539656965796589659965a965c965d965e9660966396659666966b966d966e966f96709671967396789679967a967b967c967d967e967f9680968196829683968496879689968a8f8d8f8e8f8f8f988f9a8ece620b6217621b621f6222622162256224622c81e774ef74f474ff750f75117513653465ee65ef65f0660a66196772660366156600708566f7661d66346631663666358006665f66546641664f66566661665766776684668c66a7669d66be66db66dc66e666e98d328d338d368d3b8d3d8d408d458d468d488d498d478d4d8d558d5989c789ca89cb89cc89ce89cf89d089d1726e729f725d7266726f727e727f7284728b728d728f72926308633263b0,
0x968c968e96919692969396959696969a969b969d969e969f96a096a196a296a396a496a596a696a896a996aa96ab96ac96ad96ae96af96b196b296b496b596b796b896ba96bb96bf96c296c396c896ca96cb96d096d196d396d496d696d796d896d996da96db96dc96dd96de96df96e196e296e396e496e596e696e796eb96ec96ed96ee96f096f196f296f496f596f896fa96fb96fc96fd96ff970297039705970a970b970c97109711971297149715971797189719971a971b971d971f9720643f64d880046bea6bf36bfd6bf56bf96c056c076c066c0d6c156c186c196c1a6c216c296c246c2a6c3265356555656b724d72527256723086625216809f809c809380bc670a80bd80b180ab80ad80b480b780e780e880e980ea80db80c280c480d980cd80d7671080dd80eb80f180f480ed810d810e80f280fc671581128c5a8136811e812c811881328148814c815381748159815a817181608169817c817d816d8167584d5ab58188818281916ed581a381aa81cc672681ca81bb,
0x972197229723972497259726972797289729972b972c972e972f973197339734973597369737973a973b973c973d973f9740974197429743974497459746974797489749974a974b974c974d974e974f975097519754975597579758975a975c975d975f97639764976697679768976a976b976c976d976e976f9770977197729775977797789779977a977b977d977e977f978097819782978397849786978797889789978a978c978e978f979097939795979697979799979a979b979c979d81c181a66b246b376b396b436b466b5998d198d298d398d598d998da6bb35f406bc289f365909f51659365bc65c665c465c365cc65ce65d265d67080709c7096709d70bb70c070b770ab70b170e870ca711071137116712f71317173715c716871457172714a7178717a719871b371b571a871a071e071d471e771f9721d7228706c7118716671b9623e623d624362486249793b794079467949795b795c7953795a796279577960796f7967797a7985798a799a79a779b35fd15fd0,
0x979e979f97a197a297a497a597a697a797a897a997aa97ac97ae97b097b197b397b597b697b797b897b997ba97bb97bc97bd97be97bf97c097c197c297c397c497c597c697c797c897c997ca97cb97cc97cd97ce97cf97d097d197d297d397d497d597d697d797d897d997da97db97dc97dd97de97df97e097e197e297e397e497e597e897ee97ef97f097f197f297f497f797f897f997fa97fb97fc97fd97fe97ff9800980198029803980498059806980798089809980a980b980c980d980e603c605d605a606760416059606360ab6106610d615d61a9619d61cb61d162068080807f6c936cf66dfc77f677f87800780978177818781165ab782d781c781d7839783a783b781f783c7825782c78237829784e786d78567857782678507847784c786a789b7893789a7887789c78a178a378b278b978a578d478d978c978ec78f2790578f479137924791e79349f9b9ef99efb9efc76f17704770d76f977077708771a77227719772d7726773577387750775177477743775a7768,
0x980f9810981198129813981498159816981798189819981a981b981c981d981e981f9820982198229823982498259826982798289829982a982b982c982d982e982f9830983198329833983498359836983798389839983a983b983c983d983e983f9840984198429843984498459846984798489849984a984b984c984d984e984f9850985198529853985498559856985798589859985a985b985c985d985e985f9860986198629863986498659866986798689869986a986b986c986d986e77627765777f778d777d7780778c7791779f77a077b077b577bd753a7540754e754b7548755b7572757975837f587f617f5f8a487f687f747f717f797f817f7e76cd76e58832948594869487948b948a948c948d948f9490949494979495949a949b949c94a394a494ab94aa94ad94ac94af94b094b294b494b694b794b894b994ba94bc94bd94bf94c494c894c994ca94cb94cc94cd94ce94d094d194d294d594d694d794d994d894db94de94df94e094e294e494e594e794e894ea,
0x986f98709871987298739874988b988e98929895989998a398a898a998aa98ab98ac98ad98ae98af98b098b198b298b398b498b598b698b798b898b998ba98bb98bc98bd98be98bf98c098c198c298c398c498c598c698c798c898c998ca98cb98cc98cd98cf98d098d498d698d798db98dc98dd98e098e198e298e398e498e598e698e998ea98eb98ec98ed98ee98ef98f098f198f298f398f498f598f698f798f898f998fa98fb98fc98fd98fe98ff9900990199029903990499059906990794e994eb94ee94ef94f394f494f594f794f994fc94fd94ff95039502950695079509950a950d950e950f951295139514951595169518951b951d951e951f9522952a952b9529952c953195329534953695379538953c953e953f954295359544954595469549954c954e954f9552955395549556955795589559955b955e955f955d95619562956495659566956795689569956a956b956c956f957195729573953a77e777ec96c979d579ed79e379eb7a065d477a037a027a1e7a14,
0x99089909990a990b990c990e990f991199129913991499159916991799189919991a991b991c991d991e991f9920992199229923992499259926992799289929992a992b992c992d992f9930993199329933993499359936993799389939993a993b993c993d993e993f9940994199429943994499459946994799489949994a994b994c994d994e994f99509951995299539956995799589959995a995b995c995d995e995f99609961996299649966997399789979997b997e9982998399897a397a377a519ecf99a57a707688768e7693769976a474de74e0752c9e209e229e289e299e2a9e2b9e2c9e329e319e369e389e379e399e3a9e3e9e419e429e449e469e479e489e499e4b9e4c9e4e9e519e559e579e5a9e5b9e5c9e5e9e639e669e679e689e699e6a9e6b9e6c9e719e6d9e7375927594759675a0759d75ac75a375b375b475b875c475b175b075c375c275d675cd75e375e875e675e475eb75e7760375f175fc75ff761076007605760c7617760a7625761876157619,
0x998c998e999a999b999c999d999e999f99a099a199a299a399a499a699a799a999aa99ab99ac99ad99ae99af99b099b199b299b399b499b599b699b799b899b999ba99bb99bc99bd99be99bf99c099c199c299c399c499c599c699c799c899c999ca99cb99cc99cd99ce99cf99d099d199d299d399d499d599d699d799d899d999da99db99dc99dd99de99df99e099e199e299e399e499e599e699e799e899e999ea99eb99ec99ed99ee99ef99f099f199f299f399f499f599f699f799f899f9761b763c762276207640762d7630763f76357643763e7633764d765e7654765c7656766b766f7fca7ae67a787a797a807a867a887a957aa67aa07aac7aa87aad7ab3886488698872887d887f888288a288c688b788bc88c988e288ce88e388e588f1891a88fc88e888fe88f0892189198913891b890a8934892b893689418966897b758b80e576b276b477dc801280148016801c80208022802580268027802980288031800b803580438046804d8052806980718983987898809883,
0x99fa99fb99fc99fd99fe99ff9a009a019a029a039a049a059a069a079a089a099a0a9a0b9a0c9a0d9a0e9a0f9a109a119a129a139a149a159a169a179a189a199a1a9a1b9a1c9a1d9a1e9a1f9a209a219a229a239a249a259a269a279a289a299a2a9a2b9a2c9a2d9a2e9a2f9a309a319a329a339a349a359a369a379a389a399a3a9a3b9a3c9a3d9a3e9a3f9a409a419a429a439a449a459a469a479a489a499a4a9a4b9a4c9a4d9a4e9a4f9a509a519a529a539a549a559a569a579a589a599889988c988d988f9894989a989b989e989f98a198a298a598a6864d8654866c866e867f867a867c867b86a8868d868b86ac869d86a786a386aa869386a986b686c486b586ce86b086ba86b186af86c986cf86b486e986f186f286ed86f386d0871386de86f486df86d886d18703870786f88708870a870d87098723873b871e8725872e871a873e87488734873187298737873f87828722877d877e877b87608770874c876e878b87538763877c876487598765879387af87a887d2,
0x9a5a9a5b9a5c9a5d9a5e9a5f9a609a619a629a639a649a659a669a679a689a699a6a9a6b9a729a839a899a8d9a8e9a949a959a999aa69aa99aaa9aab9aac9aad9aae9aaf9ab29ab39ab49ab59ab99abb9abd9abe9abf9ac39ac49ac69ac79ac89ac99aca9acd9ace9acf9ad09ad29ad49ad59ad69ad79ad99ada9adb9adc9add9ade9ae09ae29ae39ae49ae59ae79ae89ae99aea9aec9aee9af09af19af29af39af49af59af69af79af89afa9afc9afd9afe9aff9b009b019b029b049b059b0687c68788878587ad8797878387ab87e587ac87b587b387cb87d387bd87d187c087ca87db87ea87e087ee8816881387fe880a881b88218839883c7f367f427f447f4582107afa7afd7b087b037b047b157b0a7b2b7b0f7b477b387b2a7b197b2e7b317b207b257b247b337b3e7b1e7b587b5a7b457b757b4c7b5d7b607b6e7b7b7b627b727b717b907ba67ba77bb87bac7b9d7ba87b857baa7b9c7ba27bab7bb47bd17bc17bcc7bdd7bda7be57be67bea7c0c7bfe7bfc7c0f7c167c0b,
0x9b079b099b0a9b0b9b0c9b0d9b0e9b109b119b129b149b159b169b179b189b199b1a9b1b9b1c9b1d9b1e9b209b219b229b249b259b269b279b289b299b2a9b2b9b2c9b2d9b2e9b309b319b339b349b359b369b379b389b399b3a9b3d9b3e9b3f9b409b469b4a9b4b9b4c9b4e9b509b529b539b559b569b579b589b599b5a9b5b9b5c9b5d9b5e9b5f9b609b619b629b639b649b659b669b679b689b699b6a9b6b9b6c9b6d9b6e9b6f9b709b719b729b739b749b759b769b779b789b799b7a9b7b7c1f7c2a7c267c387c417c4081fe82018202820481ec8844822182228223822d822f8228822b8238823b82338234823e82448249824b824f825a825f8268887e8885888888d888df895e7f9d7f9f7fa77faf7fb07fb27c7c65497c917c9d7c9c7c9e7ca27cb27cbc7cbd7cc17cc77ccc7ccd7cc87cc57cd77ce8826e66a87fbf7fce7fd57fe57fe17fe67fe97fee7ff37cf87d777da67dae7e477e9b9eb89eb48d738d848d948d918db18d678d6d8c478c49914a9150914e914f9164,
0x9b7c9b7d9b7e9b7f9b809b819b829b839b849b859b869b879b889b899b8a9b8b9b8c9b8d9b8e9b8f9b909b919b929b939b949b959b969b979b989b999b9a9b9b9b9c9b9d9b9e9b9f9ba09ba19ba29ba39ba49ba59ba69ba79ba89ba99baa9bab9bac9bad9bae9baf9bb09bb19bb29bb39bb49bb59bb69bb79bb89bb99bba9bbb9bbc9bbd9bbe9bbf9bc09bc19bc29bc39bc49bc59bc69bc79bc89bc99bca9bcb9bcc9bcd9bce9bcf9bd09bd19bd29bd39bd49bd59bd69bd79bd89bd99bda9bdb9162916191709169916f917d917e917291749179918c91859190918d919191a291a391aa91ad91ae91af91b591b491ba8c559e7e8db88deb8e058e598e698db58dbf8dbc8dba8dc48dd68dd78dda8dde8dce8dcf8ddb8dc68dec8df78df88de38df98dfb8de48e098dfd8e148e1d8e1f8e2c8e2e8e238e2f8e3a8e408e398e358e3d8e318e498e418e428e518e528e4a8e708e768e7c8e6f8e748e858e8f8e948e908e9c8e9e8c788c828c8a8c858c988c94659b89d689de89da89dc,
0x9bdc9bdd9bde9bdf9be09be19be29be39be49be59be69be79be89be99bea9beb9bec9bed9bee9bef9bf09bf19bf29bf39bf49bf59bf69bf79bf89bf99bfa9bfb9bfc9bfd9bfe9bff9c009c019c029c039c049c059c069c079c089c099c0a9c0b9c0c9c0d9c0e9c0f9c109c119c129c139c149c159c169c179c189c199c1a9c1b9c1c9c1d9c1e9c1f9c209c219c229c239c249c259c269c279c289c299c2a9c2b9c2c9c2d9c2e9c2f9c309c319c329c339c349c359c369c379c389c399c3a9c3b89e589eb89ef8a3e8b26975396e996f396ef970697019708970f970e972a972d9730973e9f809f839f859f869f879f889f899f8a9f8c9efe9f0b9f0d96b996bc96bd96ce96d277bf96e0928e92ae92c8933e936a93ca938f943e946b9c7f9c829c859c869c879c887a239c8b9c8e9c909c919c929c949c959c9a9c9b9c9e9c9f9ca09ca19ca29ca39ca59ca69ca79ca89ca99cab9cad9cae9cb09cb19cb29cb39cb49cb59cb69cb79cba9cbb9cbc9cbd9cc49cc59cc69cc79cca9ccb,
0x9c3c9c3d9c3e9c3f9c409c419c429c439c449c459c469c479c489c499c4a9c4b9c4c9c4d9c4e9c4f9c509c519c529c539c549c559c569c579c589c599c5a9c5b9c5c9c5d9c5e9c5f9c609c619c629c639c649c659c669c679c689c699c6a9c6b9c6c9c6d9c6e9c6f9c709c719c729c739c749c759c769c779c789c799c7a9c7b9c7d9c7e9c809c839c849c899c8a9c8c9c8f9c939c969c979c989c999c9d9caa9cac9caf9cb99cbe9cbf9cc09cc19cc29cc89cc99cd19cd29cda9cdb9ce09ce19ccc9ccd9cce9ccf9cd09cd39cd49cd59cd79cd89cd99cdc9cdd9cdf9ce2977c978597919792979497af97ab97a397b297b49ab19ab09ab79e589ab69aba9abc9ac19ac09ac59ac29acb9acc9ad19b459b439b479b499b489b4d9b5198e8990d992e995599549adf9ae19ae69aef9aeb9afb9aed9af99b089b0f9b139b1f9b239ebd9ebe7e3b9e829e879e889e8b9e9293d69e9d9e9f9edb9edc9edd9ee09edf9ee29ee99ee79ee59eea9eef9f229f2c9f2f9f399f379f3d9f3e9f44,
0x9ce39ce49ce59ce69ce79ce89ce99cea9ceb9cec9ced9cee9cef9cf09cf19cf29cf39cf49cf59cf69cf79cf89cf99cfa9cfb9cfc9cfd9cfe9cff9d009d019d029d039d049d059d069d079d089d099d0a9d0b9d0c9d0d9d0e9d0f9d109d119d129d139d149d159d169d179d189d199d1a9d1b9d1c9d1d9d1e9d1f9d209d219d229d239d249d259d269d279d289d299d2a9d2b9d2c9d2d9d2e9d2f9d309d319d329d339d349d359d369d379d389d399d3a9d3b9d3c9d3d9d3e9d3f9d409d419d42e234e235e236e237e238e239e23ae23be23ce23de23ee23fe240e241e242e243e244e245e246e247e248e249e24ae24be24ce24de24ee24fe250e251e252e253e254e255e256e257e258e259e25ae25be25ce25de25ee25fe260e261e262e263e264e265e266e267e268e269e26ae26be26ce26de26ee26fe270e271e272e273e274e275e276e277e278e279e27ae27be27ce27de27ee27fe280e281e282e283e284e285e286e287e288e289e28ae28be28ce28de28ee28fe290e291,
0x9d439d449d459d469d479d489d499d4a9d4b9d4c9d4d9d4e9d4f9d509d519d529d539d549d559d569d579d589d599d5a9d5b9d5c9d5d9d5e9d5f9d609d619d629d639d649d659d669d679d689d699d6a9d6b9d6c9d6d9d6e9d6f9d709d719d729d739d749d759d769d779d789d799d7a9d7b9d7c9d7d9d7e9d7f9d809d819d829d839d849d859d869d879d889d899d8a9d8b9d8c9d8d9d8e9d8f9d909d919d929d939d949d959d969d979d989d999d9a9d9b9d9c9d9d9d9e9d9f9da09da19da2e292e293e294e295e296e297e298e299e29ae29be29ce29de29ee29fe2a0e2a1e2a2e2a3e2a4e2a5e2a6e2a7e2a8e2a9e2aae2abe2ace2ade2aee2afe2b0e2b1e2b2e2b3e2b4e2b5e2b6e2b7e2b8e2b9e2bae2bbe2bce2bde2bee2bfe2c0e2c1e2c2e2c3e2c4e2c5e2c6e2c7e2c8e2c9e2cae2cbe2cce2cde2cee2cfe2d0e2d1e2d2e2d3e2d4e2d5e2d6e2d7e2d8e2d9e2dae2dbe2dce2dde2dee2dfe2e0e2e1e2e2e2e3e2e4e2e5e2e6e2e7e2e8e2e9e2eae2ebe2ece2ede2eee2ef,
0x9da39da49da59da69da79da89da99daa9dab9dac9dad9dae9daf9db09db19db29db39db49db59db69db79db89db99dba9dbb9dbc9dbd9dbe9dbf9dc09dc19dc29dc39dc49dc59dc69dc79dc89dc99dca9dcb9dcc9dcd9dce9dcf9dd09dd19dd29dd39dd49dd59dd69dd79dd89dd99dda9ddb9ddc9ddd9dde9ddf9de09de19de29de39de49de59de69de79de89de99dea9deb9dec9ded9dee9def9df09df19df29df39df49df59df69df79df89df99dfa9dfb9dfc9dfd9dfe9dff9e009e019e02e2f0e2f1e2f2e2f3e2f4e2f5e2f6e2f7e2f8e2f9e2fae2fbe2fce2fde2fee2ffe300e301e302e303e304e305e306e307e308e309e30ae30be30ce30de30ee30fe310e311e312e313e314e315e316e317e318e319e31ae31be31ce31de31ee31fe320e321e322e323e324e325e326e327e328e329e32ae32be32ce32de32ee32fe330e331e332e333e334e335e336e337e338e339e33ae33be33ce33de33ee33fe340e341e342e343e344e345e346e347e348e349e34ae34be34ce34d,
0x9e039e049e059e069e079e089e099e0a9e0b9e0c9e0d9e0e9e0f9e109e119e129e139e149e159e169e179e189e199e1a9e1b9e1c9e1d9e1e9e249e279e2e9e309e349e3b9e3c9e409e4d9e509e529e539e549e569e599e5d9e5f9e609e619e629e659e6e9e6f9e729e749e759e769e779e789e799e7a9e7b9e7c9e7d9e809e819e839e849e859e869e899e8a9e8c9e8d9e8e9e8f9e909e919e949e959e969e979e989e999e9a9e9b9e9c9e9e9ea09ea19ea29ea39ea49ea59ea79ea89ea99eaae34ee34fe350e351e352e353e354e355e356e357e358e359e35ae35be35ce35de35ee35fe360e361e362e363e364e365e366e367e368e369e36ae36be36ce36de36ee36fe370e371e372e373e374e375e376e377e378e379e37ae37be37ce37de37ee37fe380e381e382e383e384e385e386e387e388e389e38ae38be38ce38de38ee38fe390e391e392e393e394e395e396e397e398e399e39ae39be39ce39de39ee39fe3a0e3a1e3a2e3a3e3a4e3a5e3a6e3a7e3a8e3a9e3aae3ab,
0x9eab9eac9ead9eae9eaf9eb09eb19eb29eb39eb59eb69eb79eb99eba9ebc9ebf9ec09ec19ec29ec39ec59ec69ec79ec89eca9ecb9ecc9ed09ed29ed39ed59ed69ed79ed99eda9ede9ee19ee39ee49ee69ee89eeb9eec9eed9eee9ef09ef19ef29ef39ef49ef59ef69ef79ef89efa9efd9eff9f009f019f029f039f049f059f069f079f089f099f0a9f0c9f0f9f119f129f149f159f169f189f1a9f1b9f1c9f1d9f1e9f1f9f219f239f249f259f269f279f289f299f2a9f2b9f2d9f2e9f309f31e3ace3ade3aee3afe3b0e3b1e3b2e3b3e3b4e3b5e3b6e3b7e3b8e3b9e3bae3bbe3bce3bde3bee3bfe3c0e3c1e3c2e3c3e3c4e3c5e3c6e3c7e3c8e3c9e3cae3cbe3cce3cde3cee3cfe3d0e3d1e3d2e3d3e3d4e3d5e3d6e3d7e3d8e3d9e3dae3dbe3dce3dde3dee3dfe3e0e3e1e3e2e3e3e3e4e3e5e3e6e3e7e3e8e3e9e3eae3ebe3ece3ede3eee3efe3f0e3f1e3f2e3f3e3f4e3f5e3f6e3f7e3f8e3f9e3fae3fbe3fce3fde3fee3ffe400e401e402e403e404e405e406e407e408e409,
0x9f329f339f349f359f369f389f3a9f3c9f3f9f409f419f429f439f459f469f479f489f499f4a9f4b9f4c9f4d9f4e9f4f9f529f539f549f559f569f579f589f599f5a9f5b9f5c9f5d9f5e9f5f9f609f619f629f639f649f659f669f679f689f699f6a9f6b9f6c9f6d9f6e9f6f9f709f719f729f739f749f759f769f779f789f799f7a9f7b9f7c9f7d9f7e9f819f829f8d9f8e9f8f9f909f919f929f939f949f959f969f979f989f9c9f9d9f9e9fa19fa29fa39fa49fa5f92cf979f995f9e7f9f1e40ae40be40ce40de40ee40fe410e411e412e413e414e415e416e417e418e419e41ae41be41ce41de41ee41fe420e421e422e423e424e425e426e427e428e429e42ae42be42ce42de42ee42fe430e431e432e433e434e435e436e437e438e439e43ae43be43ce43de43ee43fe440e441e442e443e444e445e446e447e448e449e44ae44be44ce44de44ee44fe450e451e452e453e454e455e456e457e458e459e45ae45be45ce45de45ee45fe460e461e462e463e464e465e466e467,
0xfa0cfa0dfa0efa0ffa11fa13fa14fa18fa1ffa20fa21fa23fa24fa27fa28fa292e81e816e817e8182e84347334472e882e8be81e359e361a360e2e8c2e97396e3918e82639cf39df3a7339d0e82be82c3b4e3c6e3ce02ea7e831e8322eaa4056415f2eae43372eb32eb62eb7e83b43b143ac2ebb43dd44d64661464ce84347234729477c478d2eca4947497a497d4982498349854986499f499b49b749b6e854e8554ca34c9f4ca04ca14c774ca24d134d144d154d164d174d184d194daee864e468e469e46ae46be46ce46de46ee46fe470e471e472e473e474e475e476e477e478e479e47ae47be47ce47de47ee47fe480e481e482e483e484e485e486e487e488e489e48ae48be48ce48de48ee48fe490e491e492e493e494e495e496e497e498e499e49ae49be49ce49de49ee49fe4a0e4a1e4a2e4a3e4a4e4a5e4a6e4a7e4a8e4a9e4aae4abe4ace4ade4aee4afe4b0e4b1e4b2e4b3e4b4e4b5e4b6e4b7e4b8e4b9e4bae4bbe4bce4bde4bee4bfe4c0e4c1e4c2e4c3e4c4e4c5]

def big5Rows : List ℕ := [
0x3000ff0c30013002ff0e2027ff1bff1aff1fff01fe3020262025fe50fe51fe5200b7fe54fe55fe56fe57ff5c2013fe312014fe332574fe34fe4fff08ff09fe35fe36ff5bff5dfe37fe3830143015fe39fe3a30103011fe3bfe3c300a300bfe3dfe3e30083009fe3ffe40300c300dfe41fe42300e300ffe43fe44fe59fe5afe5bfe5cfe5dfe5e20182019201c201d301d301e20352032ff03ff06ff0a203b00a7300325cb25cf25b325b225ce2606260525c725c625a125a025bd25bc32a3210500afffe3ff3f02cdfe49fe4afe4dfe4efe4bfe4cfe5ffe60fe61ff0bff0d00d700f700b1221aff1cff1eff1d226622672260221e22522261fe62fe63fe64fe65fe66ff5e2229222a22a52220221f22bf33d233d1222b222e2235223426402642229522992191219321902192219621972199219822252223ff0f,
0xff3c2215fe68ff04ffe53012ffe0ffe1ff05ff2021032109fe69fe6afe6b33d5339c339d339e33ce33a1338e338f33c400b05159515b515e515d5161516355e774e97cce25812582258325842585258625872588258f258e258d258c258b258a2589253c2534252c2524251c2594250025022595250c251025142518256d256e2570256f2550255e256a256125e225e325e525e4257125722573ff10ff11ff12ff13ff14ff15ff16ff17ff18ff192160216121622163216421652166216721682169302130223023302430253026302730283029534153445345ff21ff22ff23ff24ff25ff26ff27ff28ff29ff2aff2bff2cff2dff2eff2fff30ff31ff32ff33ff34ff35ff36ff37ff38ff39ff3aff41ff42ff43ff44ff45ff46ff47ff48ff49ff4aff4bff4cff4dff4eff4fff50ff51ff52ff53ff54ff55ff56,
0xff57ff58ff59ff5a039103920393039403950396039703980399039a039b039c039d039e039f03a003a103a303a403a503a603a703a803a903b103b203b303b403b503b603b703b803b903ba03bb03bc03bd03be03bf03c003c103c303c403c503c603c703c803c931053106310731083109310a310b310c310d310e310f3110311131123113311431153116311731183119311a311b311c311d311e311f312031213122312331243125312631273128312902d902c902ca02c702cb2400240124022403240424052406240724082409240a240b240c240d240e240f2410241124122413241424152416241724182419241a241b241c241d241e241f242120ac00000000000000000000000000000000000000000000000000000000000000000000000000000000000000000000000000000000000000000000,
0x4e004e594e014e034e434e5d4e864e8c4eba513f5165516b51e052005201529b53155341535c53c84e094e0b4e084e0a4e2b4e3851e14e454e484e5f4e5e4e8e4ea15140520352fa534353c953e3571f58eb5915592759735b505b515b535bf85c0f5c225c385c715ddd5de55df15df25df35dfe5e725efe5f0b5f13624d4e114e104e0d4e2d4e304e394e4b5c394e884e914e954e924e944ea24ec14ec04ec34ec64ec74ecd4eca4ecb4ec4514351415167516d516e516c519751f652065207520852fb52fe52ff53165339534853475345535e538453cb53ca53cd58ec5929592b592a592d5b545c115c245c3a5c6f5df45e7b5eff5f145f155fc362086236624b624e652f6587659765a465b965e566f0670867286b206b626b796bcb6bd46bdb6c0f6c34706b722a7236723b72477259725b72ac738b4e19,
0x4e164e154e144e184e3b4e4d4e4f4e4e4ee54ed84ed44ed54ed64ed74ee34ee44ed94ede514551445189518a51ac51f951fa51f8520a52a0529f530553065317531d4edf534a534953615360536f536e53bb53ef53e453f353ec53ee53e953e853fc53f853f553eb53e653ea53f253f153f053e553ed53fb56db56da5916592e5931597459765b555b835c3c5de85de75de65e025e035e735e7c5f015f185f175fc5620a625362546252625165a565e6672e672c672a672b672d6b636bcd6c116c106c386c416c406c3e72af7384738974dc74e67518751f752875297530753175327533758b767d76ae76bf76ee77db77e277f3793a79be7a747acb4e1e4e1f4e524e534e694e994ea44ea64ea54eff4f094f194f0a4f154f0d4f104f114f0f4ef24ef64efb4ef04ef34efd4f014f0b51495147514651485168,
0x5171518d51b0521752115212520e521652a3530853215320537053715409540f540c540a54105401540b54045411540d54085403540e5406541256e056de56dd573357305728572d572c572f57295919591a59375938598459785983597d5979598259815b575b585b875b885b855b895bfa5c165c795dde5e065e765e745f0f5f1b5fd95fd6620e620c620d62106263625b6258653665e965e865ec65ed66f266f36709673d6734673167356b216b646b7b6c166c5d6c576c596c5f6c606c506c556c616c5b6c4d6c4e7070725f725d767e7af97c737cf87f367f8a7fbd80018003800c80128033807f8089808b808c81e381ea81f381fc820c821b821f826e8272827e866b8840884c8863897f96214e324ea84f4d4f4f4f474f574f5e4f344f5b4f554f304f504f514f3d4f3a4f384f434f544f3c4f464f63,
0x4f5c4f604f2f4f4e4f364f594f5d4f484f5a514c514b514d517551b651b7522552245229522a522852ab52a952aa52ac532353735375541d542d541e543e5426544e542754465443543354485442541b5429544a5439543b5438542e543554365420543c54405431542b541f542c56ea56f056e456eb574a57515740574d5747574e573e5750574f573b58ef593e599d599259a8599e59a359995996598d59a45993598a59a55b5d5b5c5b5a5b5b5b8c5b8b5b8f5c2c5c405c415c3f5c3e5c905c915c945c8c5deb5e0c5e8f5e875e8a5ef75f045f1f5f645f625f775f795fd85fcc5fd75fcd5ff15feb5ff85fea62126211628462976296628062766289626d628a627c627e627962736292626f6298626e62956293629162866539653b653865f166f4675f674e674f67506751675c6756675e674967466760,
0x675367576b656bcf6c426c5e6c996c816c886c896c856c9b6c6a6c7a6c906c706c8c6c686c966c926c7d6c836c726c7e6c746c866c766c8d6c946c986c827076707c707d707872627261726072c472c27396752c752b75377538768276ef77e379c179c079bf7a767cfb7f5580968093809d8098809b809a80b2826f8292828b828d898b89d28a008c378c468c558c9d8d648d708db38eab8eca8f9b8fb08fc28fc68fc58fc45de1909190a290aa90a690a3914991c691cc9632962e9631962a962c4e264e564e734e8b4e9b4e9e4eab4eac4f6f4f9d4f8d4f734f7f4f6c4f9b4f8b4f864f834f704f754f884f694f7b4f964f7e4f8f4f914f7a515451525155516951775176517851bd51fd523b52385237523a5230522e5236524152be52bb5352535453535351536653775378537953d653d453d754735475,
0x5496547854955480547b5477548454925486547c549054715476548c549a54625468548b547d548e56fa57835777576a5769576157665764577c591c5949594759485944595459be59bb59d459b959ae59d159c659d059cd59cb59d359ca59af59b359d259c55b5f5b645b635b975b9a5b985b9c5b995b9b5c1a5c485c455c465cb75ca15cb85ca95cab5cb15cb35e185e1a5e165e155e1b5e115e785e9a5e975e9c5e955e965ef65f265f275f295f805f815f7f5f7c5fdd5fe05ffd5ff55fff600f6014602f60356016602a6015602160276029602b601b62166215623f623e6240627f62c962cc62c462bf62c262b962d262db62ab62d362d462cb62c862a862bd62bc62d062d962c762cd62b562da62b162d862d662d762c662ac62ce653e65a765bc65fa66146613660c66066602660e6600660f6615660a,
0x6607670d670b676d678b67956771679c677367776787679d6797676f6770677f6789677e67906775679a6793677c676a67726b236b666b676b7f6c136c1b6ce36ce86cf36cb16ccc6ce56cb36cbd6cbe6cbc6ce26cab6cd56cd36cb86cc46cb96cc16cae6cd76cc56cf16cbf6cbb6ce16cdb6cca6cac6cef6cdc6cd66ce07095708e7092708a7099722c722d723872487267726972c072ce72d972d772d073a973a8739f73ab73a5753d759d7599759a768476c276f276f477e577fd793e7940794179c979c87a7a7a797afa7cfe7f547f8c7f8b800580ba80a580a280b180a180ab80a980b480aa80af81e581fe820d82b3829d829982ad82bd829f82b982b182ac82a582af82b882a382b082be82b7864e8671521d88688ecb8fce8fd48fd190b590b890b190b691c791d195779580961c9640963f963b9644,
0x964296b996e89752975e4e9f4ead4eae4fe14fb54faf4fbf4fe04fd14fcf4fdd4fc34fb64fd84fdf4fca4fd74fae4fd04fc44fc24fda4fce4fde4fb751575192519151a0524e5243524a524d524c524b524752c752c952c352c1530d5357537b539a53db54ac54c054a854ce54c954b854a654b354c754c254bd54aa54c154c454c854af54ab54b154bb54a954a754bf56ff5782578b57a057a357a257ce57ae579359555951594f594e595059dc59d859ff59e359e85a0359e559ea59da59e65a0159fb5b695ba35ba65ba45ba25ba55c015c4e5c4f5c4d5c4b5cd95cd25df75e1d5e255e1f5e7d5ea05ea65efa5f085f2d5f655f885f855f8a5f8b5f875f8c5f896012601d60206025600e6028604d60706068606260466043606c606b606a6064624162dc6316630962fc62ed630162ee62fd630762f162f7,
0x62ef62ec62fe62f463116302653f654565ab65bd65e26625662d66206627662f661f66286631662466f767ff67d367f167d467d067ec67b667af67f567e967ef67c467d167b467da67e567b867cf67de67f367b067d967e267dd67d26b6a6b836b866bb56bd26bd76c1f6cc96d0b6d326d2a6d416d256d0c6d316d1e6d176d3b6d3d6d3e6d366d1b6cf56d396d276d386d296d2e6d356d0e6d2b70ab70ba70b370ac70af70ad70b870ae70a472307272726f727472e972e072e173b773ca73bb73b273cd73c073b3751a752d754f754c754e754b75ab75a475a575a275a3767876867687768876c876c676c376c5770176f976f87709770b76fe76fc770777dc78027814780c780d794679497948794779b979ba79d179d279cb7a7f7a817aff7afd7c7d7d027d057d007d097d077d047d067f387f8e7fbf8004,
0x8010800d8011803680d680e580da80c380c480cc80e180db80ce80de80e480dd81f4822282e78303830582e382db82e6830482e58302830982d282d782f1830182dc82d482d182de82d382df82ef830686508679867b867a884d886b898189d48a088a028a038c9e8ca08d748d738db48ecd8ecc8ff08fe68fe28fea8fe58fed8feb8fe48fe890ca90ce90c190c3914b914a91cd95829650964b964c964d9762976997cb97ed97f3980198a898db98df999699994e584eb3500c500d50234fef502650254ff8502950165006503c501f501a501250114ffa5000501450284ff15021500b501950184ff34fee502d502a4ffe502b5009517c51a451a551a251cd51cc51c651cb5256525c5254525b525d532a537f539f539d53df54e855105501553754fc54e554f2550654fa551454e954ed54e1550954ee54ea,
0x54e65527550754fd550f5703570457c257d457cb57c35809590f59575958595a5a115a185a1c5a1f5a1b5a1359ec5a205a235a295a255a0c5a095b6b5c585bb05bb35bb65bb45bae5bb55bb95bb85c045c515c555c505ced5cfd5cfb5cea5ce85cf05cf65d015cf45dee5e2d5e2b5eab5ead5ea75f315f925f915f9060596063606560506055606d6069606f6084609f609a608d6094608c60856096624762f3630862ff634e633e632f635563426346634f6349633a6350633d632a632b6328634d634c65486549659965c165c566426649664f66436652664c6645664166f867146715671768216838684868466853683968426854682968b36817684c6851683d67f468506840683c6843682a68456813681868416b8a6b896bb76c236c276c286c266c246cf06d6a6d956d886d876d666d786d776d596d93,
0x6d6c6d896d6e6d5a6d746d696d8c6d8a6d796d856d656d9470ca70d870e470d970c870cf7239727972fc72f972fd72f872f7738673ed740973ee73e073ea73de7554755d755c755a755975be75c575c775b275b375bd75bc75b975c275b8768b76b076ca76cd76ce7729771f7720772877e9783078277838781d783478377825782d7820781f7832795579507960795f7956795e795d7957795a79e479e379e779df79e679e979d87a847a887ad97b067b117c897d217d177d0b7d0a7d207d227d147d107d157d1a7d1c7d0d7d197d1b7f3a7f5f7f947fc57fc180068018801580198017803d803f80f1810280f0810580ed80f4810680f880f3810880fd810a80fc80ef81ed81ec82008210822a822b8228822c82bb832b83528354834a83388350834983358334834f83328339833683178340833183288343,
0x8654868a86aa869386a486a9868c86a3869c8870887788818882887d88798a188a108a0e8a0c8a158a0a8a178a138a168a0f8a118c488c7a8c798ca18ca28d778eac8ed28ed48ecf8fb1900190068ff790008ffa8ff490038ffd90058ff8909590e190dd90e29152914d914c91d891dd91d791dc91d99583966296639661965b965d96649658965e96bb98e299ac9aa89ad89b259b329b3c4e7e507a507d505c50475043504c505a504950655076504e5055507550745077504f500f506f506d515c519551f0526a526f52d252d952d852d55310530f5319533f5340533e53c366fc5546556a55665544555e55615543554a55315556554f5555552f55645538552e555c552c55635533554155575708570b570957df5805580a580657e057e457fa5802583557f757f9592059625a365a415a495a665a6a5a40,
0x5a3c5a625a5a5a465a4a5b705bc75bc55bc45bc25bbf5bc65c095c085c075c605c5c5c5d5d075d065d0e5d1b5d165d225d115d295d145d195d245d275d175de25e385e365e335e375eb75eb85eb65eb55ebe5f355f375f575f6c5f695f6b5f975f995f9e5f985fa15fa05f9c607f60a3608960a060a860cb60b460e660bd60c560bb60b560dc60bc60d860d560c660df60b860da60c7621a621b624863a063a76372639663a263a563776367639863aa637163a963896383639b636b63a863846388639963a163ac6392638f6380637b63696368637a655d6556655165596557555f654f655865556554659c659b65ac65cf65cb65cc65ce665d665a666466686666665e66f952d7671b688168af68a2689368b5687f687668b168a7689768b0688368c468ad688668856894689d68a8689f68a168826b326bba,
0x6beb6bec6c2b6d8e6dbc6df36dd96db26de16dcc6de46dfb6dfa6e056dc76dcb6daf6dd16dae6dde6df96db86df76df56dc56dd26e1a6db56dda6deb6dd86dea6df16dee6de86dc66dc46daa6dec6dbf6de670f97109710a70fd70ef723d727d7281731c731b73167313731973877405740a7403740673fe740d74e074f674f7751c75227565756675627570758f75d475d575b575ca75cd768e76d476d276db7737773e773c77367738773a786b7843784e79657968796d79fb7a927a957b207b287b1b7b2c7b267b197b1e7b2e7c927c977c957d467d437d717d2e7d397d3c7d407d307d337d447d2f7d427d327d317f3d7f9e7f9a7fcc7fce7fd2801c804a8046812f81168123812b81298130812482028235823782368239838e839e8398837883a2839683bd83ab8392838a8393838983a08377837b837c,
0x838683a786555f6a86c786c086b686c486b586c686cb86b186af86c98853889e888888ab88928896888d888b8993898f8a2a8a1d8a238a258a318a2d8a1f8a1b8a228c498c5a8ca98cac8cab8ca88caa8ca78d678d668dbe8dba8edb8edf9019900d901a90179023901f901d90109015901e9020900f90229016901b901490e890ed90fd915791ce91f591e691e391e791ed91e99589966a9675967396789670967496769677966c96c096ea96e97ae07adf980298039b5a9ce59e759e7f9ea59ebb50a2508d508550995091508050965098509a670051f1527252745275526952de52dd52db535a53a5557b558055a7557c558a559d55985582559c55aa55945587558b558355b355ae559f553e55b2559a55bb55ac55b1557e558955ab5599570d582f582a58345824583058315821581d582058f958fa5960,
0x5a775a9a5a7f5a925a9b5aa75b735b715bd25bcc5bd35bd05c0a5c0b5c315d4c5d505d345d475dfd5e455e3d5e405e435e7e5eca5ec15ec25ec45f3c5f6d5fa95faa5fa860d160e160b260b660e0611c612360fa611560f060fb60f4616860f1610e60f6610961006112621f624963a3638c63cf63c063e963c963c663cd63d263e363d063e163d663ed63ee637663f463ea63db645263da63f9655e6566656265636591659065af666e667066746676666f6691667a667e667766fe66ff671f671d68fa68d568e068d868d7690568df68f568ee68e768f968d268f268e368cb68cd690d6912690e68c968da696e68fb6b3e6b3a6b3d6b986b966bbc6bef6c2e6c2f6c2c6e2f6e386e546e216e326e676e4a6e206e256e236e1b6e5b6e586e246e566e6e6e2d6e266e6f6e346e4d6e3a6e2c6e436e1d6e3e6ecb,
0x6e896e196e4e6e636e446e726e696e5f7119711a7126713071217136716e711c724c728472807336732573347329743a742a743374227425743574367434742f741b7426742875257526756b756a75e275db75e375d975d875de75e0767b767c7696769376b476dc774f77ed785d786c786f7a0d7a087a0b7a057a007a987a977a967ae57ae37b497b567b467b507b527b547b4d7b4b7b4f7b517c9f7ca57d5e7d507d687d557d2b7d6e7d727d617d667d627d707d7355847fd47fd5800b8052808581558154814b8151814e81398146813e814c815381748212821c83e9840383f8840d83e083c5840b83c183ef83f183f48457840a83f0840c83cc83fd83f283ca8438840e840483dc840783d483df865b86df86d986ed86d486db86e486d086de885788c188c288b1898389968a3b8a608a558a5e8a3c8a41,
0x8a548a5b8a508a468a348a3a8a368a568c618c828caf8cbc8cb38cbd8cc18cbb8cc08cb48cb78cb68cbf8cb88d8a8d858d818dce8ddd8dcb8dda8dd18dcc8ddb8dc68efb8ef88efc8f9c902e90359031903890329036910290f5910990fe9163916591cf9214921592239209921e920d9210920792119594958f958b959195939592958e968a968e968b967d96859686968d9672968496c196c596c496c696c796ef96f297cc98059806980898e798ea98ef98e998f298ed99ae99ad9ec39ecd9ed14e8250ad50b550b250b350c550be50ac50b750bb50af50c7527f5277527d52df52e652e452e252e3532f55df55e855d355e655ce55dc55c755d155e355e455ef55da55e155c555c655e555c957125713585e585158585857585a5854586b584c586d584a58625852584b59675ac15ac95acc5abe5abd5abc,
0x5ab35ac25ab25d695d6f5e4c5e795ec95ec85f125f595fac5fae611a610f6148611f60f3611b60f961016108614e614c6144614d613e61346127610d61066137622162226413643e641e642a642d643d642c640f641c6414640d6436641664176406656c659f65b06697668966876688669666846698668d67036994696d695a697769606954697569306982694a6968696b695e695369796986695d6963695b6b476b726bc06bbf6bd36bfd6ea26eaf6ed36eb66ec26e906e9d6ec76ec56ea56e986ebc6eba6eab6ed16e966e9c6ec46ed46eaa6ea76eb4714e71597169716471497167715c716c7166714c7165715e714671687156723a725273377345733f733e746f745a7455745f745e7441743f7459745b745c75767578760075f0760175f275f175fa75ff75f475f376de76df775b776b7766775e7763,
0x7779776a776c775c77657768776277ee788e78b078977898788c7889787c78917893787f797a797f7981842c79bd7a1c7a1a7a207a147a1f7a1e7a9f7aa07b777bc07b607b6e7b677cb17cb37cb57d937d797d917d817d8f7d5b7f6e7f697f6a7f727fa97fa87fa480568058808680848171817081788165816e8173816b8179817a81668205824784828477843d843184758466846b8449846c845b843c8435846184638469846d8446865e865c865f86f9871387088707870086fe86fb870287038706870a885988df88d488d988dc88d888dd88e188ca88d588d2899c89e38a6b8a728a738a668a698a708a878a7c8a638aa08a718a858a6d8a628a6e8a6c8a798a7b8a3e8a688c628c8a8c898cca8cc78cc88cc48cb28cc38cc28cc58de18ddf8de88def8df38dfa8dea8de48de68eb28f038f098efe8f0a,
0x8f9f8fb2904b904a905390429054903c905590509047904f904e904d9051903e904191129117916c916a916991c9923792579238923d9240923e925b924b9264925192349249924d92459239923f925a959896989694969596cd96cb96c996ca96f796fb96f996f6975697749776981098119813980a9812980c98fc98f498fd98fe99b399b199b49ae19ce99e829f0e9f139f2050e750ee50e550d650ed50da50d550cf50d150f150ce50e9516251f352835282533153ad55fe5600561b561755fd561456065609560d560e55f75616561f5608561055f6571857165875587e58835893588a58795885587d58fd592559225924596a59695ae15ae65ae95ad75ad65ad85ae35b755bde5be75be15be55be65be85be25be45bdf5c0d5c625d845d875e5b5e635e555e575e545ed35ed65f0a5f465f705fb96147,
0x613f614b617761626163615f615a61586175622a64876458645464a46478645f647a645164676434646d647b657265a165d765d666a266a8669d699c69a8699569c169ae69d369cb699b69b769bb69ab69b469d069cd69ad69cc69a669c369a36b496b4c6c336f336f146efe6f136ef46f296f3e6f206f2c6f0f6f026f226eff6eef6f066f316f386f326f236f156f2b6f2f6f886f2a6eec6f016ef26ecc6ef771947199717d718a71847192723e729272967344735074647463746a7470746d750475917627760d760b7609761376e176e37784777d777f776178c1789f78a778b378a978a3798e798f798d7a2e7a317aaa7aa97aed7aef7ba17b957b8b7b757b977b9d7b947b8f7bb87b877b847cb97cbd7cbe7dbb7db07d9c7dbd7dbe7da07dca7db47db27db17dba7da27dbf7db57db87dad7dd27dc77dac,
0x7f707fe07fe17fdf805e805a808781508180818f8188818a817f818281e781fa82078214821e824b84c984bf84c684c48499849e84b2849c84cb84b884c084d3849084bc84d184ca873f871c873b872287258734871887558737872988f3890288f488f988f888fd88e8891a88ef8aa68a8c8a9e8aa38a8d8aa18a938aa48aaa8aa58aa88a988a918a9a8aa78c6a8c8d8c8c8cd38cd18cd28d6b8d998d958dfc8f148f128f158f138fa390609058905c90639059905e9062905d905b91199118911e917591789177917492789280928592989296927b9293929c92a8927c929195a195a895a995a395a595a49699969c969b96cc96d29700977c978597f69817981898af98b199039905990c990999c19aaf9ab09ae69b419b429cf49cf69cf39ebc9f3b9f4a5104510050fb50f550f9510251085109510551dc,
0x528752885289528d528a52f053b2562e563b56395632563f563456295653564e565756745636562f56305880589f589e58b3589c58ae58a958a6596d5b095afb5b0b5af55b0c5b085bee5bec5be95beb5c645c655d9d5d945e625e5f5e615ee25eda5edf5edd5ee35ee05f485f715fb75fb561766167616e615d61556182617c6170616b617e61a7619061ab618e61ac619a61a4619461ae622e6469646f6479649e64b26488649064b064a56493649564a9649264ae64ad64ab649a64ac649964a264b365756577657866ae66ab66b466b16a236a1f69e86a016a1e6a1969fd6a216a136a0a69f36a026a0569ed6a116b506b4e6ba46bc56bc66f3f6f7c6f846f516f666f546f866f6d6f5b6f786f6e6f8e6f7a6f706f646f976f586ed56f6f6f606f5f719f71ac71b171a87256729b734e73577469748b7483,
0x747e7480757f76207629761f7624762676217622769a76ba76e4778e7787778c7791778b78cb78c578ba78ca78be78d578bc78d07a3f7a3c7a407a3d7a377a3b7aaf7aae7bad7bb17bc47bb47bc67bc77bc17ba07bcc7cca7de07df47def7dfb7dd87dec7ddd7de87de37dda7dde7de97d9e7dd97df27df97f757f777faf7fe98026819b819c819d81a0819a81988517853d851a84ee852c852d8513851185238521851484ec852584ff8506878287748776876087668778876887598757874c8753885b885d89108907891289138915890a8abc8ad28ac78ac48a958acb8af88ab28ac98ac28abf8ab08ad68acd8ab68ab98adb8c4c8c4e8c6c8ce08cde8ce68ce48cec8ced8ce28ce38cdc8cea8ce18d6d8d9f8da38e2b8e108e1d8e228e0f8e298e1f8e218e1e8eba8f1d8f1b8f1f8f298f268f2a8f1c8f1e,
0x8f259069906e9068906d90779130912d9127913191879189918b918392c592bb92b792ea92ac92e492c192b392bc92d292c792f092b295ad95b197049706970797099760978d978b978f9821982b981c98b3990a99139912991899dd99d099df99db99d199d599d299d99ab79aee9aef9b279b459b449b779b6f9d069d099d039ea99ebe9ece58a89f5251125118511451105115518051aa51dd5291529352f35659566b5679566956645678566a566856655671566f566c5662567658c158be58c758c5596e5b1d5b345b785bf05c0e5f4a61b2619161a9618a61cd61b661be61ca61c8623064c564c164cb64bb64bc64da64c464c764c264cd64bf64d264d464be657466c666c966b966c466c766b86a3d6a386a3a6a596a6b6a586a396a446a626a616a4b6a476a356a5f6a486b596b776c056fc26fb16fa1,
0x6fc36fa46fc16fa76fb36fc06fb96fb66fa66fa06fb471be71c971d071d271c871d571b971ce71d971dc71c371c47368749c74a37498749f749e74e2750c750d76347638763a76e776e577a0779e779f77a578e878da78ec78e779a67a4d7a4e7a467a4c7a4b7aba7bd97c117bc97be47bdb7be17be97be67cd57cd67e0a7e117e087e1b7e237e1e7e1d7e097e107f797fb27ff07ff17fee802881b381a981a881fb820882588259854a855985488568856985438549856d856a855e8783879f879e87a2878d8861892a89328925892b892189aa89a68ae68afa8aeb8af18b008adc8ae78aee8afe8b018b028af78aed8af38af68afc8c6b8c6d8c938cf48e448e318e348e428e398e358f3b8f2f8f388f338fa88fa69075907490789072907c907a913491929320933692f89333932f932292fc932b9304931a,
0x9310932693219315932e931995bb96a796a896aa96d5970e97119716970d9713970f975b975c9766979898309838983b9837982d9839982499109928991e991b9921991a99ed99e299f19ab89abc9afb9aed9b289b919d159d239d269d289d129d1b9ed89ed49f8d9f9c512a511f5121513252f5568e5680569056855687568f58d558d358d158ce5b305b2a5b245b7a5c375c685dbc5dba5dbd5db85e6b5f4c5fbd61c961c261c761e661cb6232623464ce64ca64d864e064f064e664ec64f164e264ed6582658366d966d66a806a946a846aa26a9c6adb6aa36a7e6a976a906aa06b5c6bae6bda6c086fd86ff16fdf6fe06fdb6fe46feb6fef6f806fec6fe16fe96fd56fee6ff071e771df71ee71e671e571ed71ec71f471e0723572467370737274a974b074a674a876467642764c76ea77b377aa77b077ac,
0x77a777ad77ef78f778fa78f478ef790179a779aa7a577abf7c077c0d7bfe7bf77c0c7be07ce07cdc7cde7ce27cdf7cd97cdd7e2e7e3e7e467e377e327e437e2b7e3d7e317e457e417e347e397e487e357e3f7e2f7f447ff37ffc807180728070806f807381c681c381ba81c281c081bf81bd81c981be81e88209827185aa8584857e859c8591859485af859b858785a8858a866787c087d187b387d287c687ab87bb87ba87c887cb893b893689448938893d89ac8b0e8b178b198b1b8b0a8b208b1d8b048b108c418c3f8c738cfa8cfd8cfc8cf88cfb8da88e498e4b8e488e4a8f448f3e8f428f458f3f907f907d9084908190829080913991a3919e919c934d938293289375934a9365934b9318937e936c935b9370935a935495ca95cb95cc95c895c696b196b896d6971c971e97a097d3984698b699359a01,
0x99ff9bae9bab9baa9bad9d3b9d3f9e8b9ecf9ede9edc9edd9edb9f3e9f4b53e2569556ae58d958d85b385f5d61e3623364f464f264fe650664fa64fb64f765b766dc67266ab36aac6ac36abb6ab86ac26aae6aaf6b5f6b786baf7009700b6ffe70066ffa7011700f71fb71fc71fe71f87377737574a774bf751576567658765277bd77bf77bb77bc790e79ae7a617a627a607ac47ac57c2b7c277c2a7c1e7c237c217ce77e547e557e5e7e5a7e617e527e597f487ff97ffb8077807681cd81cf820a85cf85a985cd85d085c985b085ba85b985a687ef87ec87f287e0898689b289f48b288b398b2c8b2b8c508d058e598e638e668e648e5f8e558ec08f498f4d90879083908891ab91ac91d09394938a939693a293b393ae93ac93b09398939a939795d495d695d095d596e296dc96d996db96de972497a397a6,
0x97ad97f9984d984f984c984e985398ba993e993f993d992e99a59a0e9ac19b039b069b4f9b4e9b4d9bca9bc99bfd9bc89bc09d519d5d9d609ee09f159f2c513356a558de58df58e25bf59f905eec61f261f761f661f56500650f66e066dd6ae56add6ada6ad3701b701f7028701a701d701570187206720d725872a27378737a74bd74ca74e375877586765f766177c7791979b17a6b7a697c3e7c3f7c387c3d7c377c407e6b7e6d7e797e697e6a7f857e737fb67fb97fb881d885e985dd85ea85d585e485e585f787fb8805880d87f987fe8960895f8956895e8b418b5c8b588b498b5a8b4e8b4f8b468b598d088d0a8e7c8e728e878e768e6c8e7a8e748f548f4e8fad908a908b91b191ae93e193d193df93c393c893dc93dd93d693e293cd93d893e493d793e895dc96b496e3972a9727976197dc97fb985e,
0x9858985b98bc994599499a169a199b0d9be89be79bd69bdb9d899d619d729d6a9d6c9e929e979e939eb452f856a856b756b656b456bc58e45b405b435b7d5bf65dc961f861fa65186514651966e667276aec703e703070327210737b74cf766276657926792a792c792b7ac77af67c4c7c437c4d7cef7cf08fae7e7d7e7c7e827f4c800081da826685fb85f9861185fa8606860b8607860a88148815896489ba89f88b708b6c8b668b6f8b5f8b6b8d0f8d0d8e898e818e858e8291b491cb9418940393fd95e1973098c49952995199a89a2b9a309a379a359c139c0d9e799eb59ee89f2f9f5f9f639f615137513856c156c056c259145c6c5dcd61fc61fe651d651c659566e96afb6b046afa6bb2704c721b72a774d674d4766977d37c507e8f7e8c7fbc8617862d861a882388228821881f896a896c89bd8b74,
0x8b778b7d8d138e8a8e8d8e8b8f5f8faf91ba942e94339435943a94389432942b95e297389739973297ff9867986599579a459a439a409a3e9acf9b549b519c2d9c259daf9db49dc29db89e9d9eef9f199f5c9f669f67513c513b56c856ca56c95b7f5dd45dd25f4e61ff65246b0a6b6170517058738074e4758a766e766c79b37c607c5f807e807d81df8972896f89fc8b808d168d178e918e938f619148944494519452973d973e97c397c1986b99559a559a4d9ad29b1a9c499c319c3e9c3b9dd39dd79f349f6c9f6a9f9456cc5dd662006523652b652a66ec6b1074da7aca7c647c637c657e937e967e9481e28638863f88318b8a9090908f9463946094649768986f995c9a5a9a5b9a579ad39ad49ad19c549c579c569de59e9f9ef456d158e9652c705e7671767277d77f507f888836883988628b938b92,
0x8b9682778d1b91c0946a97429748974497c698709a5f9b229b589c5f9df99dfa9e7c9e7d9f079f779f725ef36b1670637c6c7c6e883b89c08ea191c1947294709871995e9ad69b239ecc706477da8b9a947797c99a629a657e9c8b9c8eaa91c5947d947e947c9c779c789ef78c54947f9e1a72289a6a9b319e1b9e1e7c722460246124622463246424652466246724682469247424752476247724782479247a247b247c247d21702171217221732174217521762177217821794e364e3f4e854ea05182519651ab52f95338536953b6590a5b805ddb5e7a5e7f5ef45f505f61653465e0759276768fb596b600a802c630fd30fe309d309e0000000030053006300730fcff3bff3d273d304130423043304430453046304730483049304a304b304c304d304e304f305030513052305330543055305630573058,
0x3059305a305b305c305d305e305f3060306130623063306430653066306730683069306a306b306c306d306e306f3070307130723073307430753076307730783079307a307b307c307d307e307f3080308130823083308430853086308730883089308a308b308c308d308e308f309030913092309330a130a230a330a430a530a630a730a830a930aa30ab30ac30ad30ae30af30b030b130b230b330b430b530b630b730b830b930ba30bb30bc30bd30be30bf30c030c130c230c330c430c530c630c730c830c930ca30cb30cc30cd30ce30cf30d030d130d230d330d430d530d630d730d830d930da30db30dc30dd30de30df30e030e130e230e330e430e530e630e730e830e930ea30eb30ec30ed30ee30ef30f030f130f230f330f430f530f604100411041204130414041504010416041704180419041a,
0x41b041c041d041e041f0420042104220423042404250426042704280429042a042b042c042d042e042f04300431043204330434043504510436043704380439043a043b043c043d043e043f0440044104420443044404450446044704480449044a044b044c044d044e044f21e721b821b931cf00cc4e5a008a520244919fb051889fb176070000000000000000000000000000000000000000000000000000000000000000000000000000000000000000000000000000000000000000000000000000000000000000000000000000000000000000ffe2ffe4ff07ff02323121162121309b309c2e802e842e862e872e882e8a2e8c2e8d2e952e9c2e9d2ea52ea72eaa2eac2eae2eb62ebc2ebe2ec62eca2ecc2ecd2ecf2ed62ed72ede2ee300000000000002830250025b02540275015300f8014b028a026a,
0x4e424e5c51f5531a53824e074e0c4e474e8d56d7fa0c5c6e5f734e0f51874e0e4e2e4e934ec24ec94ec8519852fc536c53b957205903592c5c105dff65e16bb36bcc6c14723f4e314e3c4ee84edc4ee94ee14edd4eda520c531c534c572257235917592f5b815b845c125c3b5c745c735e045e805e825fc9620962506c156c366c436c3f6c3b72ae72b0738a79b8808a961e4f0e4f184f2c4ef54f144ef14f004ef74f084f1d4f024f054f224f134f044ef44f1251b152135209521052a65322531f534d538a540756e156df572e572a5734593c5980597c5985597b597e5977597f5b565c155c255c7c5c7a5c7b5c7e5ddf5e755e845f025f1a5f745fd55fd45fcf625c625e626462616266626262596260625a626565ef65ee673e67396738673b673a673f673c67336c186c466c526c5c6c4f6c4a6c546c4b,
0x6c4c7071725e72b472b5738e752a767f7a757f518278827c8280827d827f864d897e909990979098909b909496229624962096234f564f3b4f624f494f534f644f3e4f674f524f5f4f414f584f2d4f334f3f4f61518f51b9521c521e522152ad52ae530953635372538e538f54305437542a545454455419541c54255418543d544f544154285424544756ee56e756e557415745574c5749574b57525906594059a6599859a05997598e59a25990598f59a759a15b8e5b925c285c2a5c8d5c8f5c885c8b5c895c925c8a5c865c935c955de05e0a5e0e5e8b5e895e8c5e885e8d5f055f1d5f785f765fd25fd15fd05fed5fe85fee5ff35fe15fe45fe35ffa5fef5ff75ffb60005ff4623a6283628c628e628f629462876271627b627a6270628162886277627d62726274653765f065f465f365f265f567456747,
0x67596755674c6748675d674d675a674b6bd06c196c1a6c786c676c6b6c846c8b6c8f6c716c6f6c696c9a6c6d6c876c956c9c6c666c736c656c7b6c8e7074707a726372bf72bd72c372c672c172ba72c573957397739373947392753a7539759475957681793d80348095809980908092809c8290828f8285828e82918293828a828382848c788fc98fbf909f90a190a5909e90a790a096309628962f962d4e334f984f7c4f854f7d4f804f874f764f744f894f844f774f4c4f974f6a4f9a4f794f814f784f904f9c4f944f9e4f924f824f954f6b4f6e519e51bc51be5235523252335246523152bc530a530b533c539253945487547f5481549154825488546b547a547e5465546c54745466548d546f54615460549854635467546456f756f9576f5772576d576b57715770577657805775577b577357745762,
0x5768577d590c594559b559ba59cf59ce59b259cc59c159b659bc59c359d659b159bd59c059c859b459c75b625b655b935b955c445c475cae5ca45ca05cb55caf5ca85cac5c9f5ca35cad5ca25caa5ca75c9d5ca55cb65cb05ca65e175e145e195f285f225f235f245f545f825f7e5f7d5fde5fe5602d602660196032600b6034600a60176033601a601e602c6022600d6010602e60136011600c6009601c6214623d62ad62b462d162be62aa62b662ca62ae62b362af62bb62a962b062b8653d65a865bb660965fc66046612660865fb6603660b660d660565fd6611661066f6670a6785676c678e67926776677b6798678667846774678d678c677a679f679167996783677d67816778677967946b256b806b7e6bde6c1d6c936cec6ceb6cee6cd96cb66cd46cad6ce76cb76cd06cc26cba6cc36cc66ced6cf2,
0x6cd26cdd6cb46c8a6c9d6c806cde6cc06d306ccd6cc76cb06cf96ccf6ce96cd1709470987085709370867084709170967082709a7083726a72d672cb72d872c972dc72d272d472da72cc72d173a473a173ad73a673a273a073ac739d74dd74e8753f7540753e758c759876af76f376f176f076f577f877fc77f977fb77fa77f77942793f79c57a787a7b7afb7c757cfd8035808f80ae80a380b880b580ad822082a082c082ab829a8298829b82b582a782ae82bc829e82ba82b482a882a182a982c282a482c382b682a28670866f866d866e8c568fd28fcb8fd38fcd8fd68fd58fd790b290b490af90b390b09639963d963c963a96434fcd4fc54fd34fb24fc94fcb4fc14fd44fdc4fd94fbb4fb34fdb4fc74fd64fba4fc04fb94fec5244524952c052c2533d537c539753965399539854ba54a154ad54a554cf,
0x54c3830d54b754ae54d654b654c554c654a0547054bc54a254be547254de54b057b5579e579f57a4578c5797579d579b57945798578f579957a5579a579558f4590d595359e159de59ee5a0059f159dd59fa59fd59fc59f659e459f259f759db59e959f359f559e059fe59f459ed5ba85c4c5cd05cd85ccc5cd75ccb5cdb5cde5cda5cc95cc75cca5cd65cd35cd45ccf5cc85cc65cce5cdf5cf85df95e215e225e235e205e245eb05ea45ea25e9b5ea35ea55f075f2e5f565f866037603960546072605e6045605360476049605b604c60406042605f6024604460586066606e6242624362cf630d630b62f5630e630362eb62f9630f630c62f862f663006313631462fa631562fb62f06541654365aa65bf6636662166326635661c662666226633662b663a661d66346639662e670f671067c167f267c867ba,
0x67dc67bb67f867d867c067b767c567eb67e467df67b567cd67b367f767f667ee67e367c267b967ce67e767f067b267fc67c667ed67cc67ae67e667db67fa67c967ca67c367ea67cb6b286b826b846bb66bd66bd86be06c206c216d286d346d2d6d1f6d3c6d3f6d126d0a6cda6d336d046d196d3a6d1a6d116d006d1d6d426d016d186d376d036d0f6d406d076d206d2c6d086d226d096d1070b7709f70be70b170b070a170b470b570a972417249724a726c72707273726e72ca72e472e872eb72df72ea72e672e3738573cc73c273c873c573b973b673b573b473eb73bf73c773be73c373c673b873cb74ec74ee752e7547754875a775aa767976c47708770377047705770a76f776fb76fa77e777e878067811781278057810780f780e780978037813794a794c794b7945794479d579cd79cf79d679ce7a80,
0x7a7e7ad17b007b017c7a7c787c797c7f7c807c817d037d087d017f587f917f8d7fbe8007800e800f8014803780d880c780e080d180c880c280d080c580e380d980dc80ca80d580c980cf80d780e680cd81ff8221829482d982fe82f9830782e8830082d5833a82eb82d682f482ec82e182f282f5830c82fb82f682f082ea82e482e082fa82f382ed86778674867c86738841884e8867886a886989d38a048a078d728fe38fe18fee8fe090f190bd90bf90d590c590be90c790cb90c891d491d39654964f96519653964a964e501e50055007501350225030501b4ff54ff450335037502c4ff64ff75017501c502050275035502f5031500e515a5194519351ca51c451c551c851ce5261525a5252525e525f5255526252cd530e539e552654e25517551254e754f354e4551a54ff5504550854eb5511550554f1,
0x550a54fb54f754f854e0550e5503550b5701570257cc583257d557d257ba57c657bd57bc57b857b657bf57c757d057b957c1590e594a5a195a165a2d5a2e5a155a0f5a175a0a5a1e5a335b6c5ba75bad5bac5c035c565c545cec5cff5cee5cf15cf75d005cf95e295e285ea85eae5eaa5eac5f335f305f67605d605a6067604160a26088608060926081609d60836095609b60976087609c608e6219624662f263106356632c634463456336634363e46339634b634a633c632963416334635863546359632d63476333635a63516338635763406348654a654665c665c365c465c2664a665f6647665167126713681f681a684968326833683b684b684f68166831681c6835682b682d682f684e68446834681d6812681468266828682e684d683a682568206b2c6b2f6b2d6b316b346b6d80826b886be66be4,
0x6be86be36be26be76c256d7a6d636d646d766d0d6d616d926d586d626d6d6d6f6d916d8d6def6d7f6d866d5e6d676d606d976d706d7c6d5f6d826d986d2f6d686d8b6d7e6d806d846d166d836d7b6d7d6d756d9070dc70d370d170dd70cb7f3970e270d770d270de70e070d470cd70c570c670c770da70ce70e17242727872777276730072fa72f472fe72f672f372fb730173d373d973e573d673bc73e773e373e973dc73d273db73d473dd73da73d773d873e874de74df74f474f57521755b755f75b075c175bb75c475c075bf75b675ba768a76c9771d771b7710771377127723771177157719771a772277277823782c78227835782f7828782e782b782178297833782a78317954795b794f795c79537952795179eb79ec79e079ee79ed79ea79dc79de79dd7a867a897a857a8b7a8c7a8a7a877ad87b10,
0x7b047b137b057b0f7b087b0a7b0e7b097b127c847c917c8a7c8c7c887c8d7c857d1e7d1d7d117d0e7d187d167d137d1f7d127d0f7d0c7f5c7f617f5e7f607f5d7f5b7f967f927fc37fc27fc08016803e803980fa80f280f980f5810180fb81008201822f82258333832d83448319835183258356833f83418326831c83228342834e831b832a8308833c834d8316832483208337832f832983478345834c8353831e832c834b832783488653865286a286a88696868d8691869e868786978686868b869a868586a5869986a186a786958698868e869d8690869488438844886d88758876887288808871887f886f8883887e8874887c8a128c478c578c7b8ca48ca38d768d788db58db78db68ed18ed38ffe8ff590028fff8ffb90048ffc8ff690d690e090d990da90e390df90e590d890db90d790dc90e49150,
0x914e914f91d591e291da965c965f96bc98e39adf9b2f4e7f5070506a5061505e50605053504b505d50725048504d5041505b504a506250155045505f5069506b5063506450465040506e50735057505151d0526b526d526c526e52d652d3532d539c55755576553c554d55505534552a5551556255365535553055525545550c55325565554e55395548552d553b5540554b570a570757fb581457e257f657dc57f4580057ed57fd580857f8580b57f357cf580757ee57e357f257e557ec57e1580e57fc581057e75801580c57f157e957f0580d5804595c5a605a585a555a675a5e5a385a355a6d5a505a5f5a655a6c5a535a645a575a435a5d5a525a445a5b5a485a8e5a3e5a4d5a395a4c5a705a695a475a515a565a425a5c5b725b6e5bc15bc05c595d1e5d0b5d1d5d1a5d205d0c5d285d0d5d265d255d0f,
0x5d305d125d235d1f5d2e5e3e5e345eb15eb45eb95eb25eb35f365f385f9b5f965f9f608a6090608660be60b060ba60d360d460cf60e460d960dd60c860b160db60b760ca60bf60c360cd60c063326365638a6382637d63bd639e63ad639d639763ab638e636f63876390636e63af6375639c636d63ae637c63a4633b639f6378638563816391638d6370655365cd66656661665b6659665c66626718687968876890689c686d686e68ae68ab6956686f68a368ac68a96875687468b2688f68776892687c686b687268aa68806871687e689b6896688b68a0688968a46878687b6891688c688a687d6b366b336b376b386b916b8f6b8d6b8e6b8c6c2a6dc06dab6db46db36e746dac6de96de26db76df66dd46e006dc86de06ddf6dd66dbe6de56ddc6ddd6ddb6df46dca6dbd6ded6df06dba6dd56dc26dcf6dc9,
0x6dd06df26dd36dfd6dd76dcd6de36dbb70fa710d70f7711770f4710c70f0710470f3711070fc70ff71067113710070f870f6710b7102710e727e727b727c727f731d7317730773117318730a730872ff730f731e738873f673f873f57404740173fd7407740073fa73fc73ff740c740b73f474087564756375ce75d275cf75cb75cc75d175d0768f768976d37739772f772d7731773277347733773d7725773b7735784878527849784d784a784c782678457850796479677969796a7963796b796179bb79fa79f879f679f77a8f7a947a907b357b477b347b257b307b227b247b337b187b2a7b1d7b317b2b7b2d7b2f7b327b387b1a7b237c947c987c967ca37d357d3d7d387d367d3a7d457d2c7d297d417d477d3e7d3f7d4a7d3b7d287f637f957f9c7f9d7f9b7fca7fcb7fcd7fd07fd17fc77fcf7fc9801f,
0x801e801b804780438048811881258119811b812d811f812c811e812181158127811d8122821182388233823a823482328274839083a383a8838d837a837383a48374838f8381839583998375839483a9837d8383838c839d839b83aa838b837e83a583af8388839783b0837f83a6838783ae8376839a8659865686bf86b786c286c186c586ba86b086c886b986b386b886cc86b486bb86bc86c386bd86be88528889889588a888a288aa889a889188a1889f889888a78899889b889788a488ac888c8893888e898289d689d989d58a308a278a2c8a1e8c398c3b8c5c8c5d8c7d8ca58d7d8d7b8d798dbc8dc28db98dbf8dc18ed88ede8edd8edc8ed78ee08ee19024900b9011901c900c902190ef90ea90f090f490f290f390d490eb90ec90e991569158915a9153915591ec91f491f191f391f891e491f991ea,
0x91eb91f791e891ee957a95869588967c966d966b9671966f96bf976a980498e59997509b50955094509e508b50a35083508c508e509d5068509c509250825087515f51d45312531153a453a7559155a855a555ad5577564555a255935588558f55b5558155a3559255a4557d558c55a6557f559555a1558e570c582958375819581e58275823582857f558485825581c581b5833583f5836582e58395838582d582c583b59615aaf5a945a9f5a7a5aa25a9e5a785aa65a7c5aa55aac5a955aae5a375a845a8a5a975a835a8b5aa95a7b5a7d5a8c5a9c5a8f5a935a9d5bea5bcd5bcb5bd45bd15bca5bce5c0c5c305d375d435d6b5d415d4b5d3f5d355d515d4e5d555d335d3a5d525d3d5d315d595d425d395d495d385d3c5d325d365d405d455e445e415f585fa65fa55fab60c960b960cc60e260ce60c46114,
0x60f2610a6116610560f5611360f860fc60fe60c161036118611d611060ff6104610b624a639463b163b063ce63e563e863ef63c3649d63f363ca63e063f663d563f263f5646163df63be63dd63dc63c463d863d363c263c763cc63cb63c863f063d763d965326567656a6564655c65686565658c659d659e65ae65d065d2667c666c667b668066716679666a66726701690c68d3690468dc692a68ec68ea68f1690f68d668f768eb68e468f66913691068f368e1690768cc6908697068b4691168ef68c6691468f868d068fd68fc68e8690b690a691768ce68c868dd68de68e668f468d1690668d468e96915692568c76b396b3b6b3f6b3c6b946b976b996b956bbd6bf06bf26bf36c306dfc6e466e476e1f6e496e886e3c6e3d6e456e626e2b6e3f6e416e5d6e736e1c6e336e4b6e406e516e3b6e036e2e6e5e,
0x6e686e5c6e616e316e286e606e716e6b6e396e226e306e536e656e276e786e646e776e556e796e526e666e356e366e5a7120711e712f70fb712e71317123712571227132711f7128713a711b724b725a7288728972867285728b7312730b733073227331733373277332732d732673237335730c742e742c7430742b7416741a7421742d743174247423741d74297420743274fb752f756f756c75e775da75e175e675dd75df75e475d77695769276da774677477744774d7745774a774e774b774c77de77ec786078647865785c786d7871786a786e787078697868785e786279747973797279707a027a0a7a037a0c7a047a997ae67ae47b4a7b3b7b447b487b4c7b4e7b407b587b457ca27c9e7ca87ca17d587d6f7d637d537d567d677d6a7d4f7d6d7d5c7d6b7d527d547d697d517d5f7d4e7f3e7f3f7f65,
0x7f667fa27fa07fa17fd78051804f805080fe80d48143814a8152814f8147813d814d813a81e681ee81f781f881f98204823c823d823f8275833b83cf83f9842383c083e8841283e783e483fc83f6841083c683c883eb83e383bf840183dd83e583d883ff83e183cb83ce83d683f583c98409840f83de8411840683c283f383d583fa83c783d183ea841383c383ec83ee83c483fb83d783e2841b83db83fe86d886e286e686d386e386da86ea86dd86eb86dc86ec86e986d786e886d188488856885588ba88d788b988b888c088be88b688bc88b788bd88b2890188c989958998899789dd89da89db8a4e8a4d8a398a598a408a578a588a448a458a528a488a518a4a8a4c8a4f8c5f8c818c808cba8cbe8cb08cb98cb58d848d808d898dd88dd38dcd8dc78dd68ddc8dcf8dd58dd98dc88dd78dc58eef8ef78efa,
0x8ef98ee68eee8ee58ef58ee78ee88ef68eeb8ef18eec8ef48ee9902d9034902f9106912c910490ff90fc910890f990fb9101910091079105910391619164915f916291609201920a92259203921a9226920f920c9200921291ff91fd9206920492279202921c92249219921792059216957b958d958c95909687967e968896899683968096c296c896c396f196f0976c9770976e980798a998eb9ce69ef94e834e844eb650bd50bf50c650ae50c450ca50b450c850c250b050c150ba50b150cb50c950b650b851d7527a5278527b527c55c355db55cc55d055cb55ca55dd55c055d455c455e955bf55d2558d55cf55d555e255d655c855f255cd55d955c25714585358685864584f584d5849586f5855584e585d58595865585b583d5863587158fc5ac75ac45acb5aba5ab85ab15ab55ab05abf5ac85abb5ac6,
0x5ab75ac05aca5ab45ab65acd5ab95a905bd65bd85bd95c1f5c335d715d635d4a5d655d725d6c5d5e5d685d675d625df05e4f5e4e5e4a5e4d5e4b5ec55ecc5ec65ecb5ec75f405faf5fad60f76149614a612b614561366132612e6146612f614f612961406220916862236225622463c563f163eb6410641264096420642464336443641f641564186439643764226423640c64266430642864416435642f640a641a644064256427640b63e7641b642e6421640e656f659265d36686668c66956690668b668a66996694667867206966695f6938694e69626971693f6945696a6939694269576959697a694869496935696c6933693d696568f06978693469696940696f69446976695869416974694c693b694b6937695c694f695169326952692f697b693c6b466b456b436b426b486b416b9bfa0d6bfb6bfc,
0x6bf96bf76bf86e9b6ed66ec86e8f6ec06e9f6e936e946ea06eb16eb96ec66ed26ebd6ec16e9e6ec96eb76eb06ecd6ea66ecf6eb26ebe6ec36edc6ed86e996e926e8e6e8d6ea46ea16ebf6eb36ed06eca6e976eae6ea3714771547152716371607141715d716271727178716a7161714271587143714b7170715f715071537144714d715a724f728d728c72917290728e733c7342733b733a7340734a73497444744a744b7452745174577440744f7450744e74427446744d745474e174ff74fe74fd751d75797577698375ef760f760375f775fe75fc75f975f8761075fb75f675ed75f575fd769976b576dd7755775f776077527756775a7769776777547759776d77e07887789a7894788f788478957885788678a178837879789978807896787b797c7982797d79797a117a187a197a127a177a157a227a13,
0x7a1b7a107aa37aa27a9e7aeb7b667b647b6d7b747b697b727b657b737b717b707b617b787b767b637cb27cb47caf7d887d867d807d8d7d7f7d857d7a7d8e7d7b7d837d7c7d8c7d947d847d7d7d927f6d7f6b7f677f687f6c7fa67fa57fa77fdb7fdc8021816481608177815c8169815b816281726721815e81768167816f81448161821d8249824482408242824584f1843f845684768479848f848d846584518440848684678430844d847d845a845984748473845d8507845e8437843a8434847a8443847884328445842983d9844b842f8442842d845f84708439844e844c8452846f84c5848e843b8447843684338468847e8444842b84608454846e8450870b870486f7870c86fa86d686f5874d86f8870e8709870186f6870d870588d688cb88cd88ce88de88db88da88cc88d08985899b89df89e589e4,
0x89e189e089e289dc89e68a768a868a7f8a618a3f8a778a828a848a758a838a818a748a7a8c3c8c4b8c4a8c658c648c668c868c848c858ccc8d688d698d918d8c8d8e8d8f8d8d8d938d948d908d928df08de08dec8df18dee8dd08de98de38de28de78df28deb8df48f068eff8f018f008f058f078f088f028f0b9052903f90449049903d9110910d910f911191169114910b910e916e916f924892529230923a926692339265925e9283922e924a9246926d926c924f92609267926f92369261927092319254926392509272924e9253924c92569232959f959c959e959b969296939691969796ce96fa96fd96f896f59773977797789772980f980d980e98ac98f698f999af99b299b099b59aad9aab9b5b9cea9ced9ce79e809efd50e650d450d750e850f350db50ea50dd50e450d350ec50f050ef50e350e0,
0x51d85280528152e952eb533053ac56275615560c561255fc560f561c56015613560255fa561d560455ff55f95889587c5890589858865881587f5874588b587a58875891588e587658825888587b5894588f58fe596b5adc5aee5ae55ad55aea5ada5aed5aeb5af35ae25ae05adb5aec5ade5add5ad95ae85adf5b775be05be35c635d825d805d7d5d865d7a5d815d775d8a5d895d885d7e5d7c5d8d5d795d7f5e585e595e535ed85ed15ed75ece5edc5ed55ed95ed25ed45f445f435f6f5fb6612c61286141615e61716173615261536172616c618061746154617a615b6165613b616a6161615662296227622b642b644d645b645d6474647664726473647d6475646664a6644e6482645e645c644b645364606450647f643f646c646b645964656477657365a066a166a0669f67056704672269b169b669c9,
0x69a069ce699669b069ac69bc69916999698e69a7698d69a969be69af69bf69c469bd69a469d469b969ca699a69cf69b3699369aa69a1699e69d96997699069c269b569a569c66b4a6b4d6b4b6b9e6b9f6ba06bc36bc46bfe6ece6ef56ef16f036f256ef86f376efb6f2e6f096f4e6f196f1a6f276f186f3b6f126eed6f0a6f366f736ef96eee6f2d6f406f306f3c6f356eeb6f076f0e6f436f056efd6ef66f396f1c6efc6f3a6f1f6f0d6f1e6f086f21718771907189718071857182718f717b718671817197724472537297729572937343734d7351734c746274737471747574727467746e750075027503757d759076167608760c76157611760a761476b87781777c77857782776e7780776f777e778378b278aa78b478ad78a8787e78ab789e78a578a078ac78a278a47998798a798b7996799579947993,
0x79977988799279907a2b7a4a7a307a2f7a287a267aa87aab7aac7aee7b887b9c7b8a7b917b907b967b8d7b8c7b9b7b8e7b857b9852847b997ba47b827cbb7cbf7cbc7cba7da77db77dc27da37daa7dc17dc07dc57d9d7dce7dc47dc67dcb7dcc7daf7db97d967dbc7d9f7da67dae7da97da17dc97f737fe27fe37fe57fde8024805d805c8189818681838187818d818c818b8215849784a484a1849f84ba84ce84c284ac84ae84ab84b984b484c184cd84aa849a84b184d0849d84a784bb84a2849484c784cc849b84a984af84a884d6849884b684cf84a084d784d484d284db84b084918661873387238728876b8740872e871e87218719871b8743872c8741873e874687208732872a872d873c8712873a8731873587428726872787388724871a8730871188f788e788f188f288fa88fe88ee88fc88f688fb,
0x88f088ec88eb899d89a1899f899e89e989eb89e88aab8a998a8b8a928a8f8a968c3d8c688c698cd58ccf8cd78d968e098e028dff8e0d8dfd8e0a8e038e078e068e058dfe8e008e048f108f118f0e8f0d9123911c91209122911f911d911a91249121911b917a91729179917392a592a49276929b927a92a0929492aa928d92a6929a92ab92799297927f92a392ee928e9282929592a2927d928892a1928a9286928c929992a7927e928792a9929d928b922d969e96a196ff9758977d977a977e978397809782977b97849781977f97ce97cd981698ad98ae990299009907999d999c99c399b999bb99ba99c299bd99c79ab19ae39ae79b3e9b3f9b609b619b5f9cf19cf29cf59ea750ff5103513050f85106510750f650fe510b510c50fd510a528b528c52f152ef56485642564c56355641564a564956465658,
0x565a56405633563d562c563e5638562a563a571a58ab589d58b158a058a358af58ac58a558a158ff5aff5af45afd5af75af65b035af85b025af95b015b075b055b0f5c675d995d975d9f5d925da25d935d955da05d9c5da15d9a5d9e5e695e5d5e605e5c7df35edb5ede5ee15f495fb2618b6183617961b161b061a26189619b619361af61ad619f619261aa61a1618d616661b3622d646e6470649664a064856497649c648f648b648a648c64a3649f646864b164986576657a6579657b65b265b366b566b066a966b266b766aa66af6a006a066a1769e569f86a1569f169e46a2069ff69ec69e26a1b6a1d69fe6a2769f269ee6a1469f769e76a406a0869e669fb6a0d69fc69eb6a096a046a186a256a0f69f66a266a0769f46a166b516ba56ba36ba26ba66c016c006bff6c026f416f266f7e6f876fc66f92,
0x6f8d6f896f8c6f626f4f6f856f5a6f966f766f6c6f826f556f726f526f506f576f946f936f5d6f006f616f6b6f7d6f676f906f536f8b6f696f7f6f956f636f776f6a6f7b71b271af719b71b071a0719a71a971b5719d71a5719e71a471a171aa719c71a771b37298729a73587352735e735f7360735d735b7361735a7359736274877489748a74867481747d74857488747c747975087507757e7625761e7619761d761c7623761a7628761b769c769d769e769b778d778f7789778878cd78bb78cf78cc78d178ce78d478c878c378c478c9799a79a179a0799c79a2799b6b767a397ab27ab47ab37bb77bcb7bbe7bac7bce7baf7bb97bca7bb57cc57cc87ccc7ccb7df77ddb7dea7de77dd77de17e037dfa7de67df67df17df07dee7ddf7f767fac7fb07fad7fed7feb7fea7fec7fe67fe88064806781a3819f,
0x819e819581a2819981978216824f825382528250824e82518524853b850f85008529850e8509850d851f850a8527851c84fb852b84fa8508850c84f4852a84f2851584f784eb84f384fc851284ea84e9851684fe8528851d852e850284fd851e84f68531852684e784e884f084ef84f9851885208530850b8519852f8662875687638764877787e1877387588754875b87528761875a8751875e876d876a8750874e875f875d876f876c877a876e875c8765874f877b8775876287678769885a8905890c8914890b891789188919890689168911890e890989a289a489a389ed89f089ec8acf8ac68ab88ad38ad18ad48ad58abb8ad78abe8ac08ac58ad88ac38aba8abd8ad98c3e8c4d8c8f8ce58cdf8cd98ce88cda8cdd8ce78da08d9c8da18d9b8e208e238e258e248e2e8e158e1b8e168e118e198e268e27,
0x8e148e128e188e138e1c8e178e1a8f2c8f248f188f1a8f208f238f168f1790739070906f9067906b912f912b9129912a91329126912e91859186918a918191829184918092d092c392c492c092d992b692cf92f192df92d892e992d792dd92cc92ef92c292e892ca92c892ce92e692cd92d592c992e092de92e792d192d392b592e192c692b4957c95ac95ab95ae95b096a496a296d3970597089702975a978a978e978897d097cf981e981d9826982998289820981b982798b2990898fa9911991499169917991599dc99cd99cf99d399d499ce99c999d699d899cb99d799cc9ab39aec9aeb9af39af29af19b469b439b679b749b719b669b769b759b709b689b649b6c9cfc9cfa9cfd9cff9cf79d079d009cf99cfb9d089d059d049e839ed39f0f9f10511c51135117511a511151de533453e156705660566e,
0x567356665663566d5672565e5677571c571b58c858bd58c958bf58ba58c258bc58c65b175b195b1b5b215b145b135b105b165b285b1a5b205b1e5bef5dac5db15da95da75db55db05dae5daa5da85db25dad5daf5db45e675e685e665e6f5ee95ee75ee65ee85ee55f4b5fbc619d61a8619661c561b461c661c161cc61ba61bf61b8618c64d764d664d064cf64c964bd648964c364db64f364d96533657f657c65a266c866be66c066ca66cb66cf66bd66bb66ba66cc67236a346a666a496a676a326a686a3e6a5d6a6d6a766a5b6a516a286a5a6a3b6a3f6a416a6a6a646a506a4f6a546a6f6a696a606a3c6a5e6a566a556a4d6a4e6a466b556b546b566ba76baa6bab6bc86bc76c046c036c066fad6fcb6fa36fc76fbc6fce6fc86f5e6fc46fbd6f9e6fca6fa870046fa56fae6fba6fac6faa6fcf6fbf6fb8,
0x6fa26fc96fab6fcd6faf6fb26fb071c571c271bf71b871d671c071c171cb71d471ca71c771cf71bd71d871bc71c671da71db729d729e736973667367736c7365736b736a747f749a74a074947492749574a1750b7580762f762d7631763d7633763c76357632763076bb76e6779a779d77a1779c779b77a277a377957799779778dd78e978e578ea78de78e378db78e178e278ed78df78e079a47a447a487a477ab67ab87ab57ab17ab77bde7be37be77bdd7bd57be57bda7be87bf97bd47bea7be27bdc7beb7bd87bdf7cd27cd47cd77cd07cd17e127e217e177e0c7e1f7e207e137e0e7e1c7e157e1a7e227e0b7e0f7e167e0d7e147e257e247f437f7b7f7c7f7a7fb17fef802a8029806c81b181a681ae81b981b581ab81b081ac81b481b281b781a781f282558256825785568545856b854d855385618558,
0x854085468564854185628544855185478563853e855b8571854e856e8575855585678560858c8566855d85548565856c866386658664879b878f87978793879287888781879687988779878787a3878587908791879d87848794879c879a8789891e89268930892d892e89278931892289298923892f892c891f89f18ae08ae28af28af48af58add8b148ae48adf8af08ac88ade8ae18ae88aff8aef8afb8c918c928c908cf58cee8cf18cf08cf38d6c8d6e8da58da78e338e3e8e388e408e458e368e3c8e3d8e418e308e3f8ebd8f368f2e8f358f328f398f378f3490769079907b908690fa913391359136919391909191918d918f9327931e9308931f9306930f937a9338933c931b9323931293019346932d930e930d92cb931d92fa9325931392f992f793349302932492ff932993399335932a9314930c,
0x930b92fe9309930092fb931695bc95cd95be95b995ba95b695bf95b595bd96a996d4970b9712971097999797979497f097f89835982f98329924991f99279929999e99ee99ec99e599e499f099e399ea99e999e79ab99abf9ab49abb9af69afa9af99af79b339b809b859b879b7c9b7e9b7b9b829b939b929b909b7a9b959b7d9b889d259d179d209d1e9d149d299d1d9d189d229d109d199d1f9e889e869e879eae9ead9ed59ed69efa9f129f3d51265125512251245120512952f45693568c568d568656845683567e5682567f568158d658d458cf58d25b2d5b255b325b235b2c5b275b265b2f5b2e5b7b5bf15bf25db75e6c5e6a5fbe5fbb61c361b561bc61e761e061e561e461e861de64ef64e964e364eb64e464e86581658065b665da66d26a8d6a966a816aa56a896a9f6a9b6aa16a9e6a876a936a8e,
0x6a956a836aa86aa46a916a7f6aa66a9a6a856a8c6a926b5b6bad6c096fcc6fa96ff46fd46fe36fdc6fed6fe76fe66fde6ff26fdd6fe26fe871e171f171e871f271e471f071e27373736e736f749774b274ab749074aa74ad74b174a574af751075117512750f7584764376487649764776a476e977b577ab77b277b777b677b477b177a877f078f378fd790278fb78fc78f2790578f978fe790479ab79a87a5c7a5b7a567a587a547a5a7abe7ac07ac17c057c0f7bf27c007bff7bfb7c0e7bf47c0b7bf37c027c097c037c017bf87bfd7c067bf07bf17c107c0a7ce87e2d7e3c7e427e3398487e387e2a7e497e407e477e297e4c7e307e3b7e367e447e3a7f457f7f7f7e7f7d7ff47ff2802c81bb81c481cc81ca81c581c781bc81e9825b825a825c85838580858f85a7859585a0858b85a3857b85a4859a859e,
0x8577857c858985a1857a85788557858e85968586858d8599859d858185a28582858885858579857685988590859f866887be87aa87ad87c587b087ac87b987b587bc87ae87c987c387c287cc87b787af87c487ca87b487b687bf87b887bd87de87b289358933893c893e894189528937894289ad89af89ae89f289f38b1e8b188b168b118b058b0b8b228b0f8b128b158b078b0d8b088b068b1c8b138b1a8c4f8c708c728c718c6f8c958c948cf98d6f8e4e8e4d8e538e508e4c8e478f438f409085907e9138919a91a2919b9199919f91a1919d91a093a1938393af936493569347937c9358935c93769349935093519360936d938f934c936a9379935793559352934f93719377937b9361935e936393679380934e935995c795c095c995c395c595b796ae96b096ac9720971f9718971d9719979a97a1979c,
0x979e979d97d597d497f198419844984a9849984598439925992b992c992a99339932992f992d99319930999899a399a19a0299fa99f499f799f999f899f699fb99fd99fe99fc9a039abe9afe9afd9b019afc9b489b9a9ba89b9e9b9b9ba69ba19ba59ba49b869ba29ba09baf9d339d419d679d369d2e9d2f9d319d389d309d459d429d439d3e9d379d409d3d7ff59d2d9e8a9e899e8d9eb09ec89eda9efb9eff9f249f239f229f549fa05131512d512e5698569c5697569a569d569959705b3c5c695c6a5dc05e6d5e6e61d861df61ed61ee61f161ea61f061eb61d661e964ff650464fd64f86501650364fc659465db66da66db66d86ac56ab96abd6ae16ac66aba6ab66ab76ac76ab46aad6b5e6bc96c0b7007700c700d700170057014700e6fff70006ffb70266ffc6ff7700a720171ff71f9720371fd7376,
0x74b874c074b574c174be74b674bb74c275147513765c76647659765076537657765a76a676bd76ec77c277ba78ff790c79137914790979107912791179ad79ac7a5f7c1c7c297c197c207c1f7c2d7c1d7c267c287c227c257c307e5c7e507e567e637e587e627e5f7e517e607e577e537fb57fb37ff77ff8807581d181d281d0825f825e85b485c685c085c385c285b385b585bd85c785c485bf85cb85ce85c885c585b185b685d2862485b885b785be866987e787e687e287db87eb87ea87e587df87f387e487d487dc87d387ed87d887e387a487d787d9880187f487e887dd8953894b894f894c89468950895189498b2a8b278b238b338b308b358b478b2f8b3c8b3e8b318b258b378b268b368b2e8b248b3b8b3d8b3a8c428c758c998c988c978cfe8d048d028d008e5c8e628e608e578e568e5e8e658e67,
0x8e5b8e5a8e618e5d8e698e548f468f478f488f4b9128913a913b913e91a891a591a791af91aa93b5938c939293b7939b939d938993a7938e93aa939e93a6939593889399939f938d93b1939193b293a493a893b493a393a595d295d395d196b396d796da5dc296df96d896dd97239722972597ac97ae97a897ab97a497aa97a297a597d797d997d697d897fa98509851985298b89941993c993a9a0f9a0b9a099a0d9a049a119a0a9a059a079a069ac09adc9b089b049b059b299b359b4a9b4c9b4b9bc79bc69bc39bbf9bc19bb59bb89bd39bb69bc49bb99bbd9d5c9d539d4f9d4a9d5b9d4b9d599d569d4c9d579d529d549d5f9d589d5a9e8e9e8c9edf9f019f009f169f259f2b9f2a9f299f289f4c9f5551345135529652f753b456ab56ad56a656a756aa56ac58da58dd58db59125b3d5b3e5b3f5dc35e70,
0x5fbf61fb65076510650d6509650c650e658465de65dd66de6ae76ae06acc6ad16ad96acb6adf6adc6ad06aeb6acf6acd6ade6b606bb06c0c7019702770207016702b702170227023702970177024701c702a720c720a72077202720572a572a672a472a372a174cb74c574b774c37516766077c977ca77c477f1791d791b7921791c7917791e79b07a677a687c337c3c7c397c2c7c3b7cec7cea7e767e757e787e707e777e6f7e7a7e727e747e687f4b7f4a7f837f867fb77ffd7ffe807881d781d582648261826385eb85f185ed85d985e185e885da85d785ec85f285f885d885df85e385dc85d185f085e685ef85de85e2880087fa880387f687f78809880c880b880687fc880887ff880a88028962895a895b89578961895c8958895d8959898889b789b689f68b508b488b4a8b408b538b568b548b4b8b55,
0x8b518b428b528b578c438c778c768c9a8d068d078d098dac8daa8dad8dab8e6d8e788e738e6a8e6f8e7b8ec28f528f518f4f8f508f538fb49140913f91b091ad93de93c793cf93c293da93d093f993ec93cc93d993a993e693ca93d493ee93e393d593c493ce93c093d293e7957d95da95db96e19729972b972c9728972697b397b797b697dd97de97df985c9859985d985798bf98bd98bb98be99489947994399a699a79a1a9a159a259a1d9a249a1b9a229a209a279a239a1e9a1c9a149ac29b0b9b0a9b0e9b0c9b379bea9beb9be09bde9be49be69be29bf09bd49bd79bec9bdc9bd99be59bd59be19bda9d779d819d8a9d849d889d719d809d789d869d8b9d8c9d7d9d6b9d749d759d709d699d859d739d7b9d829d6f9d799d7f9d879d689e949e919ec09efc9f2d9f409f419f4d9f569f579f58533756b2,
0x56b556b358e35b455dc65dc75eee5eef5fc05fc161f9651765166515651365df66e866e366e46af36af06aea6ae86af96af16aee6aef703c7035702f70377034703170427038703f703a70397040703b703370417213721472a8737d737c74ba76ab76aa76be76ed77cc77ce77cf77cd77f279257923792779287924792979b27a6e7a6c7a6d7af77c497c487c4a7c477c457cee7e7b7e7e7e817e807fba7fff807981db81d9820b82688269862285ff860185fe861b860085f6860486098605860c85fd8819881088118817881388168963896689b989f78b608b6a8b5d8b688b638b658b678b6d8dae8e868e888e848f598f568f578f558f588f5a908d9143914191b791b591b291b3940b941393fb9420940f941493fe9415941094289419940d93f5940093f79407940e9416941293fa940993f8940a93ff,
0x93fc940c93f69411940695de95e095df972e972f97b997bb97fd97fe986098629863985f98c198c29950994e9959994c994b99539a329a349a319a2c9a2a9a369a299a2e9a389a2d9ac79aca9ac69b109b129b119c0b9c089bf79c059c129bf89c409c079c0e9c069c179c149c099d9f9d999da49d9d9d929d989d909d9b9da09d949d9c9daa9d979da19d9a9da29da89d9e9da39dbf9da99d969da69da79e999e9b9e9a9ee59ee49ee79ee69f309f2e9f5b9f609f5e9f5d9f599f91513a51395298529756c356bd56be5b485b475dcb5dcf5ef161fd651b6b026afc6b036af86b0070437044704a7048704970457046721d721a7219737e7517766a77d0792d7931792f7c547c537cf27e8a7e877e887e8b7e867e8d7f4d7fbb803081dd8618862a8626861f8623861c86198627862e862186208629861e8625,
0x8829881d881b88208824881c882b884a896d8969896e896b89fa8b798b788b458b7a8b7b8d108d148daf8e8e8e8c8f5e8f5b8f5d91469144914591b9943f943b94369429943d943c94309439942a9437942c9440943195e595e495e39735973a97bf97e1986498c998c698c0995899569a399a3d9a469a449a429a419a3a9a3f9acd9b159b179b189b169b3a9b529c2b9c1d9c1c9c2c9c239c289c299c249c219db79db69dbc9dc19dc79dca9dcf9dbe9dc59dc39dbb9db59dce9db99dba9dac9dc89db19dad9dcc9db39dcd9db29e7a9e9c9eeb9eee9eed9f1b9f189f1a9f319f4e9f659f649f924eb956c656c556cb59715b4b5b4c5dd55dd15ef265216520652665226b0b6b086b096c0d7055705670577052721e721f72a9737f74d874d574d974d7766d76ad793579b47a707a717c577c5c7c597c5b7c5a,
0x7cf47cf17e917f4f7f8781de826b863486358633862c86328636882c88288826882a8825897189bf89be89fb8b7e8b848b828b868b858b7f8d158e958e948e9a8e928e908e968e978f608f629147944c9450944a944b944f94479445944894499446973f97e3986a986998cb9954995b9a4e9a539a549a4c9a4f9a489a4a9a499a529a509ad09b199b2b9b3b9b569b559c469c489c3f9c449c399c339c419c3c9c379c349c329c3d9c369ddb9dd29dde9dda9dcb9dd09ddc9dd19ddf9de99dd99dd89dd69df59dd59ddd9eb69ef09f359f339f329f429f6b9f959fa2513d529958e858e759725b4d5dd8882f5f4f62016203620465296525659666eb6b116b126b0f6bca705b705a7222738273817383767077d47c677c667e95826c863a86408639863c8631863b863e88308832882e883389768974897389fe,
0x8b8c8b8e8b8b8b888c458d198e988f648f6391bc94629455945d9457945e97c497c598009a569a599b1e9b1f9b209c529c589c509c4a9c4d9c4b9c559c599c4c9c4e9dfb9df79def9de39deb9df89de49df69de19dee9de69df29df09de29dec9df49df39de89ded9ec29ed09ef29ef39f069f1c9f389f379f369f439f4f9f719f709f6e9f6f56d356cd5b4e5c6d652d66ed66ee6b13705f7061705d7060722374db74e577d5793879b779b67c6a7e977f89826d8643883888378835884b8b948b958e9e8e9f8ea08e9d91be91bd91c2946b9468946996e597469743974797c797e59a5e9ad59b599c639c679c669c629c5e9c609e029dfe9e079e039e069e059e009e019e099dff9dfd9e049ea09f1e9f469f749f759f7656d4652e65b86b186b196b176b1a7062722672aa77d877d979397c697c6b7cf67e9a,
0x7e987e9b7e9981e081e18646864786488979897a897c897b89ff8b988b998ea58ea48ea3946e946d946f9471947397499872995f9c689c6e9c6d9e0b9e0d9e109e0f9e129e119ea19ef59f099f479f789f7b9f7a9f79571e70667c6f883c8db28ea691c394749478947694759a609c749c739c719c759e149e139ef69f0a9fa4706870657cf7866a883e883d883f8b9e8c9c8ea98ec9974b9873987498cc996199ab9a649a669a679b249e159e179f4862076b1e7227864c8ea89482948094819a699a689b2e9e197229864b8b9f94839c799eb776759a6b9c7a9e1d7069706a9ea49f7e9f499f98788192b988cf58bb60527ca75afa2554256625572560256c2563255a2569255d255225642555255e256a256125582567255b255325652556255f256b256225592568255c25512550256d256e2570256f2593]

def hkscsRows : List ℕ := [
0x43f04c32460345a6457872674d7745b37cb14ce27cc53b95,
0x473647444c474c4042bf361773526e8b70d24c57a351474f,
0x45da4c857c6c4d074aa446a16b2372255a541a633e063f61,
0x664d56fb00007d95591d8bb93df497347bef5bdb1d5e5aa4,
0x36259eb05ad15bb75cfc676e859399457461749d38751d53,
0x369e60213eec58de3af57afc9f974161890d31ea0a8a325e,
0x430a84849f96942f493086135896974a921879d07a326660,
0x6a29889d744c7bc567827a2c524f904634e673c45db974c6,
0x9fc757b3492f544c4131368e58187a727b658b8f46ae6e88,
0x41815d997bae24bc9fc824c124c924cc9fc9850435bb40b4,
0x9fca44e1adff62c1706e9fcb000000000000000000000000,
0x0,
0x0,
0x31c031c131c231c331c4010c31c500d100cd31c631c7,
0xcb1fe831c800ca31c931ca31cb31cc010e31cd31ce0100,
0xc101cd00c0011200c9011a00c8014c00d301d100d2dc00,
0x1ebedc041ec000ca010100e101ce00e00251011300e9011b,
0xe8012b00ed01d000ec014d00f301d200f2016b00fa01d4,
0xf901d601d801da01dc00fcdc081ebfdc0c1ec100ea0261,
0x23da23db0000000000000000000000000000000000000000,
0x0,
0x0,
0x0,
0x0,
0x0,
0x0,
0xa3a911450000650a000000004e3d6edd9d4e91df,
0x773564914f1a4f284fa851565174519c51e452a1,
0x52a8533b534e53d153d856e258f059045907593259345b66,
0x5b9e5b9f5c9a5e86603b658967fe680468656d4e70bc7535,
0x7ea47eac7eba7ec77ecf7edf7f067f37827a82cf836f89c6,
0x8bbe8be28f668f678f6e74117cfc7dcd69467ac952270000,
0x918c78b8915e80bc00008d0b80f609e70000,
0x809f9ec74ccd9dc99e0c4c3e9df6700e9e0aa13335c1,
0x6e9a823e7519000049119a6c9a8f9f997987846c1dca,
0x5d02ae64e244e814e804e874ebf4eeb4f37344c4fbd3e48,
0x50035088347d349334a55186590551db51fc52054e895279,
0x5290532735c753a9355153b0355353c25423356d35723681,
0x549354a354b454b954d054ef5518552355283598553f35a5,
0x35bf55d735c57d84552500000c420d15512b55902cc639ec,
0x3418e464db894e5405380be777a2c383a3447d5815d69f2,
0x4dea64dd0d7c0fb40cd510f4648d8e7e0e960c0b0f642ca9,
0x825644d300000d469a4d80e947f44ea72cc29ab23a6795f4,
0x3fed350652c797d478c82d449d6e9815000043d960a564b4,
0x54e32d4c2bca107739fb106f66da671679a064ea50520c43,
0x8e6821a18b4c07310000480b01a93ffa58732d8d000045c8,
0x4fc60970f4c0d96557940bb43ba00004ab42a66109d81aa,
0x98f50d9c637939fe27758dc056a1647c3e430000a6010e09,
0x2acf2cc9000010c839c239923a06829b35785e4920c75652,
0xf312cb2972034bc6c3d4e3b0000000075742e8b2208a65b,
0x8ccd0e7a0c34681c7f9310cf2803293935fb51e30e8c0f8d,
0xeaa3f930f300d47114f0e4c00000eab0ba90d4810c0113d,
0x3ff9269664320fad33f476392bce0d7e0d7f2c512c553a18,
0xe9810c70f2ea6326b508cd28d998cca95aa54cc82c455b9,
0x9ec39c269ab6775e2dee7140816d80ec5c1c65728134,
0x3797535f80bd91b60efa0e0f0e770efb35dd4deb36090cd6,
0x56af27b510c90e100e7810781148820714550e794e502da4,
0x5a54101d101e10f510f6579c0e11769482cd0fb50e7b517e,
0x37030fb6118052d8a2bd49da183a4177827c58995268361a,
0x573d7bb25b6848004b2c9f2749e79c1f9b8d5b74313d55fb,
0x35f256894e2859021bc1f878975100864e5b4ebb353e5c23,
0x5f515fc438fa624c65356b7a6c356c3a706c722b4e2c72ad,
0x48e97f52793b7cf97f53626a34c10000634b800280806612,
0x6951535d886489c178b28ba08d1d94859578957f95e88e0f,
0x97e6987598ce98de996398109c7c9e1f9ec46b6ff9074e37,
0x87961d623794a20000503b6dfe9c739fa63dc9888f414e,
0x70775cf54b2051cd35595d3061228a328fa791f671916719,
0x73ba3281a1073c8b19804b1078e4740251ae870f40096a63,
0xa2ba4223860f0a6f7a2a99478aea9755704d5324207e93f4,
0x76d989e39fa777dd4ea34ff050bc4e2f4f179fa854347d8b,
0x589258d01db65e925e995fc22712658b33f969196a433c63,
0x6cff000072004505738c3edb4a135b1574b98b835ca45695,
0x7a937bec7cc37e6c82f885979fa988909faa8eb99fab8fcf,
0x855f99e092219fac8db9143f407142a25a1a000000000000,
0x9868676b4276573d000085d6497b82bf710d4c816d745d7b,
0x6b156fbe9fad9fae5b969faf66e77e5b6e5779ca3d8844c3,
0x32562796439a453600005cd53b1a8af95c783d1235515d78,
0x9fb27157455840ec1e234c773978344a01a46c418acc4fb4,
0x23959bf816c985698fa5f3b0b9f000021c1896d410246bb,
0x90793f079fb3a1b540f837d646f76c46417c86b273ff456d,
0x38d4549a4561451b4d894c7b4d7645ea3fc84b0f366144de,
0x44bd41ed5d3e5d485d563dfc380f5da45db9382038385e42,
0x5ebd5f255f8339083914393f394d60d7613d5ce5398961b7,
0x61b961cf39b8622c629062e5631839f856b13a0363e263fb,
0x6407645a3a4b64c05d1556219f9f3a9765863abd65ff6653,
0x3af266923b2267163b4267a468003b58684a68843b723b71,
0x3b7b69096943725c6964699f69853bbc69d63bdd6a656a74,
0x6a716a823bec6a993bf26aab6ab56ad46af66b816bc16bea,
0x6c756caa3ccb6d026d066d266d813cef6da46db16e156e18,
0x6e296e8689c06ebb6ee26eda9f7f6ee86ee96f246f343d46,
0x3f416f816fbe3d6a3d7571b75c993d8a702c3d9170507054,
0x706f707f7089032543c135f10ed83ed757be6ed3713e57e0,
0x364e69a28be95b747a4958e194d97a657a7d59ac7abb7ab0,
0x7ac27ac371d1648d41ca7ada7add7aea41ef54b25c017b0b,
0x7b557b29530e5cfe7ba27b6f839c5bb46c7f7bd084217b92,
0x5d203dad5c6584927bfa00007c355cc17c447c834882,
0x7ca6667d45787cc97cc77ce67c747cf37cf500007e67451d,
0x6e447d5d6ed6748d7d897dab71357db30000405760297de4,
0x3d137df517f97de5836d00006121615a7e6e7e92432b946c,
0x7e277f407f417f47793662d099e17f9763517fa316610068,
0x455c37664503833a7ffa648900008008801d0000802fa087,
0x6cc3803b803c80612714498966263de366e8672580a78a48,
0x8107811a58b026f66c7f64984fb864e7148a8218185e6a53,
0x4a654a95447a82290b0d6a523d7e4ff914fd84e283626b0a,
0x49a7353017733df882aa691bf99441db854b82d0831a0e16,
0x17b436c1317d355a827b82e283183e8b6da36b056b9735ce,
0x3dbf831d55ec8385450b6da583ac000083d3347e6ed46a57,
0x855a34966e422eef84585be484713dd344e46aa7844a3cb5,
0x795800006b966e776e4384de0000839144a0849384e45c91,
0x42405cc0454385345af26e9945278573451667bf86168625,
0x863b85c170888602158270cdf9b2456a8628364818a253f7,
0x739a867e8771a0f887ee2c2787b187da880f5661866c6856,
0x460f8845884675e03db975e4885e889c465b88b488b563c1,
0x88c57777770f8987898a0000000089a789bc8a2589e77924,
0x7abd8a9c779391fe8a907a597ae97b3a3f8f47137b38717c,
0x8b0c8b1f543055658b3f8b4c8b4d8aa94a7a8b908b9b8aaf,
0x16df4615884f8c9b7d547d8ff9d437257d538cd67d987dbd,
0x8d128d0319108cdb705c8d114cc93ed000008da980021014,
0x498a3b7c81bc710c7ae78ead8eb68ec392d48f198f2d8365,
0x84128fa59303a29f0a508fb3492a89de853d3dbb5ef83262,
0x8ff9a01486bc8501232539806ed79037853c7abe9061856c,
0x860b90a8871390c486e690ae000091673af091a991c47cac,
0x89331e89920e6c9f9241926255b900008ac63c9b8b0c55db,
0xd31932c936b8ae18beb708f5ac38ae28ae5496592448bec,
0x8c398bff9373945b8ebc958595a6942695a06ff642b9267a,
0x86d8127c3e2e49df6c1c967b9696416c96a36ed561da96b6,
0x78f58ae096bd53cc49a16cb80274641090af90e54ad11915,
0x330a9731864297364a0f453d45854ae970755b41971b0000,
0x91d597575b4a91eb975f942550d030b730bc9789979f97b1,
0x97be97c097d297e0546c97ee741c9433000097f5941d797a,
0x4ad198349833984b98663b0e71753d510630415c570698ca,
0x98b798c898c74aff6d2716d355b098e198e698ec93789939,
0x4a294b729857990599f59a0c9a3b9a109a58572536c490b1,
0x9bd59ae09ae29b059af44c0e9b149b2d860050349b3469a8,
0x38c3307d9b509b409d3e5a4518639b8e424b9c029bff9c0c,
0x9e689dd49fb7a192a1aba0e1a123a1df9d7e9d83a1349e0e,
0x68889dc4215ba193a220193ba2339d39a0b9a2b49e909e95,
0x9e9e9ea24d349eaa9eaf43649ec13b6039e53d1d4f3237be,
0x8c2b9f029f084b9694246da29f1700009f39569f568a9f45,
0x99b8908b97f2847f9f629f697adc9f8e72164bbe497549bb,
0x717749f843484a51739e8bda18fa799f897e8e36936993f3,
0x8a4492ec938193cb896c44b972173eeb77727a4370d04473,
0x43f8717e17ef70a318be35993ec71885542f17f8372216fb,
0x183936e1177418d15f4b372316c0575b4a2513fe12a813c6,
0x14b6850336a600008455499471653e31555c3efb705244f4,
0x36ee999d6f2667f937333c153de7586c192268104057373f,
0x40e1408b410f6c2154cb569e66b156920fdf0ba80e0d93c6,
0x8b13939c4ef8512b381944364ebc0465037f4f4b4f8a5651,
0x5a6801ab03cb3999030a041434354f2902c08eb302758ada,
0x20c4e9850cd510d4fa24f034a0e3e8a4f42502e506c5081,
0x4fcc4fe5505850fc00000000000000006e7635953e393ebf,
0x6d7218843e8951a851c305e044dd04a3049204918d7a8a9c,
0x70e525952a4087352e10000467a718c438c0c2049ac10e4,
0x69d10e1d00003ede74997414745673984b8e4abc408d53d0,
0x3584720f40c955b4034554cd0bc6571d925d96f4936657dd,
0x578d577f363e58cb5a998a4616fa176f17105a2c59b8928f,
0x5a7e5acf5a12594619f31861429536f56d0574435a215e83,
0x5a818bd7041393e0748c130371054972940889fb93bd37a0,
0x5c1e5c9e5e5e5e481996197c3aee5ecd5b4f190319043701,
0x18a036dd16fe36d3812a8a471dba347289a85f0c5f0e1927,
0x17ab5a6b173b5b44861475fd8860607e2860262b5fdb3eb8,
0x25af25be90886f7361c0003e0046261b6199619860752c9b,
0x2d0746d4914d647146652b6a3a292b22345098ea2e786337,
0xa45b64b6633163d149e32d6762a42ca1643b656b69723bf4,
0x308e32ad498932ab550d32e018d9943f66ce328931b33ae0,
0x419055848b22558f16fc555b542578ee3103182a32343464,
0x320f318242c9668e6d24666b4b93663078701deb666332d2,
0x32e1661e587238d1383a37bc3b9937a233fe74d03b96678f,
0x462a68b6681e3bc46abe386337d544876a336a526ac96b05,
0x1912651168986a4c3bd76a7a6b573fc03c9a93a092f28bea,
0x8acb9289801e89dc94676da56f0b49ec00003f7f3d8f6e04,
0x403c5a3d6e0a58476d247842713b431a427670f172507287,
0x7294478f472551794aa405eb747a3ef8365f4a4a49175fe1,
0x3f063eb14adf8c233f3560a73ef374cc743c93877437449f,
0x6dea455175833f634cd94d063f5875557673a5c63b197468,
0x8acc49ab498e3afb3dcd4a4e3eff49c548f391fa57329342,
0x8ae3186450df522151e777783232770e770f777b46973781,
0x3a5e48f07438749b3ebf4aba4ac740c84a9661ae93075581,
0x781e788d788878d273d07959774156e3410e0000849679a5,
0x6a2d3efa7a3a79f4416e16e64132923579f10d4c498c0299,
0x3dba176e3597556b357036aa01d40c0d7ae25a5926f55aaf,
0x5a9c5a0d025b78f05a2a5bc67afe41f97c5d7c6d42115bb3,
0x5ebc5ea67ccd49f917b07c8e7c7c7cae6ab27ddc7e077dd3,
0x7f4e6261615c7b487d975e82426a6b75091667d6004e35cf,
0x57c4641263f849627fdd7b27082c5ae95d437b0c5e0e99e6,
0x86459a636a1c343f39e249f765ad9a1f65a0848071276cd1,
0x44ea8137440280c68109814267b498c36a42826282656a51,
0x84536da78610721b5a86417f18405b2b18a15ae418d886a0,
0xf9bc3d8f882d74225a02886e4f45888788bf88e68965894d,
0x56838954778577848bf58bd98b9c89f93ead84a346f546cf,
0x37f28a3d8a1c94485f4d922b428465d4712970c418459d6d,
0x8c9f8ce97ddc599a77c359f0436e36d48e2a8ea74c098f30,
0x8f4a42f46c586fbb2321489b6f796e8b17da9be936b5492f,
0x90bb00005571490691bb94048a4b40628afc94278c1d8c3b,
0x84e58a2b959995a7959795968d3474453ec248ff4a4243ea,
0x3ee73225968f8ee78e668e653ecc49ed4a783fee7412746b,
0x3efc974190b068474a1d909357df0000936889898c268b2f,
0x63be92ba5b118b69493c73f9421b979b977199380f265dc1,
0x8bc54ab2981f94da92f695d791e544c08b504a678b6498dc,
0x8a453f00922a49258414993b994d7b063dfd999b4b6f99aa,
0x9a5c8b6558c86a8f9a215afe9a2f98f14b90994899bc4bbd,
0x4b97937d58721302582249b814e87844271f3db868c53d7d,
0x9458392761502781296b61079c4f9c539c7b9c359c109b7f,
0x9bcf9e2d9b9fa1f5a0fe9d214cae41049e184cb09d0ca1b4,
0xa0eda0f3992f9da584bd6e126fdf6b8285fc45336da46e84,
0x6df0842085ee6e0037d7606479e2359c3640492d49de3d62,
0x93db92be934802bf78b99277944d4fe434409064555d783d,
0x785478b6784b175731c94941369a4f726fda6fd90000701e,
0x541441b557bb58f3578a9d1657d7713434af41ac71eb6c40,
0x4f97000017b58a49610c5ace5a0b42bc4488372c4b7b89fc,
0x93bb93b818d60f1d84726cc0141342fa2c2643c159943db7,
0x67417da8615b60a449b9498b89fa92e573e23ee974b48b63,
0x189f3ee14ab36ad873f373fb3ed64a3e4a9417d94a6603a7,
0x142449e57448491670a54976928473e6935f04fe93318ace,
0x8a1693868be755d549358a82716b49430cff56a4061a0beb,
0xcb8550279c417fa7dfe16c24a501852452e9401370a8ac0,
0x49ad59b018bf188374845aa136e23d5b36b0925f5a798a81,
0x186293743ccd0ab44a96398a50f43d693d4c139c717542fb,
0x82186e0f90e444eb6d577e4f70676caf3cd63fed3e2d6e02,
0x6f0c3d6f03f5755136bc34c846803eda487159c4926e493e,
0x8f418c1c6bc0581257c836d6145270fe43624a712fe312b0,
0x23bd68b96967139834e57bf436df8a8337d633fa4c9f6a1a,
0x36ad6cb7843e44df44ce6d266d516c826fde6f177109833d,
0x173a83ed6c80705317db59895a8217b35a615a71190541fc,
0x372d59ef173c36c7718e9390669a42a55a6e5a2b42936a2b,
0x3ef97736445b42ca711d425989e14fb06d285cc244ce7e4d,
0x43bd6a0c4256130470a6713343e93da56cdff8254a4f7e65,
0x59eb5d2f3df35f5c4a5d17df7da4842654853afa33000214,
0x577e08d506193fe51f9ea2b67003915b5d70738f7cd38a59,
0x94204fc87fe772cd73107af47338733956f6734173483ea9,
0x7b18906c71f548f273e181f63eca770c3ed16ca256fd7419,
0x741e741f3ee23ef03ef43efa74d33f0e3f537542756d7572,
0x758d3f7c75c875dc3fc0764d3fd776743fdc767a4f5c7188,
0x562389805869401d774340396761404535db7798406a406f,
0x5c5e77be77cb58f2781870b9781c40a87839784778517866,
0x8448553579336803793241034109799179998fbb7a068fbc,
0x41677a9141b27abc827941c47acf7adb41cf4e217b627b6c,
0x7b7b7c127c1b4260427a7c7b7c9c428c7cb842947ced8f93,
0x70c00ccf7dcf7dd47dd07dfd7fae7fb4729f439780208025,
0x7b39802e803180543dcc57b470a080b780e943ed810c732a,
0x810e81127560811444013b3981568159815a4413583a817c,
0x818444258193442d81a557ef81c181e48254448f82a68276,
0x82ca82d882ff44b083579669698a840570f5846460e38488,
0x450484be84e184f8851085388552453b856f857085e04577,
0x8672869286b286ef9645878b4606461788ae88ff89248947,
0x899179678a298a388a948ab48c518cd48cf28d1c4798585f,
0x8dc347ed4eee8e3a55d857548e7155f58eb048378ece8ee2,
0x8ee48eed8ef28fb78fc18fca8fcc903399c448ad98e09213,
0x491e92289258926b92b192ae92bf92e392eb92f392f492fd,
0x9343938493ad494549519ebf94175301941d942d943e496a,
0x94549479952d95a249a795f4963349e567a04a2497404a35,
0x97b297c256544ae460e898b94b1998f15844990e991951b4,
0x991c99379942995d99624b7099c54b9d9a3c9b0f7a839b69,
0x9b819bdd9bf19bf44c6d9c20376f1bc29d499c3a9efe5650,
0x9d939dbd9dc09dfc94f68fb69e7b9eac9eb19ebd9ec694dc,
0x9ee29ef19ef87ac89f44009402b703a0691a94c359ac04d7,
0x584094c137b905d50615067616ba575771730ac20acd0bbf,
0x546af83b0bcb549e0bfb0c3b0c530c650c7c60e70c8d567a,
0xcb50cdd0ced0d6f0db20dc869559c2f87a50e040e0e0ed7,
0xf900f2d0e735c200fbc5e0b105c104f1076671e107b1088,
0x1096364710bf10d3112f113b536484ad12e3137513368b81,
0x1577161917c317c74e7870bb182d196a1a2d1a451c2a1c70,
0x1cac1ec862c31ed51f1571986855204569e936c8227c23d7,
0x23fa272a2871294f82fd296729932ad589a52ae88fa02b0e,
0x97b82b3f98479abd2c4c00002c882cb75be82d082d122db7,
0x2d952e422f742fcc30333066331f33de5fb1664866bf7a79,
0x356735f3000049ba0000361a37160000034658b5670e6918,
0x3aa776575fe23e113eb975fe209a48d04ab841198a9a42ee,
0x430d403b433443964a4505ca51d20611599f1ea83bbe3cff,
0x440444d657884674399b472f85e899c9376221c38b5e8b4e,
0x481248fb4a1572094ac00c7859654ea54f8607798eda,
0x502c528f573f7171529954193f4a4aa755bc5446546e6b52,
0x3473553f7632555e47185562556657c7493f585d5066,
0x34fb33cc00005903477c89485aae5b895c061d9057a17151,
0x61027c12905661b24f9a8b626402644a5d5b6bf70000,
0x6484191c8aea49f664883fef65124bc065bf66b5271b9465,
0x57e161955a27f8cd000056b9452166fc4e6a493496566d8f,
0x6cbd361889776799686e6411685e000068c77b4290c00a11,
0x6926000069397a45000069fa9a266a2d365f646900217983,
0x6a346b5b5d2c351900006b9d46d06ca4753b88656dae58b6,
0x371c258d704b71cd3c54728072859281217a728b933072e6,
0x49d06c39949f74500ef8882788f52926847317b16eb84a2a,
0x182039a436b900000000453f66b69cad98a4894377cc7858,
0x56d640df160a39a1372f80e813c571ad836679dd91a80000,
0x4cb770af89ab79fd7a0a7b0b7d66417a7b43797e80096fb5,
0xa2df6a03831853a26e0793bf6836975d816f802369b513ed,
0x322f80485d858c3080835715982389495dab498865be69d5,
0x53d24aa53f813c116736809080f4812e1fa1814f818981af,
0x821a8306832f838a35ca846886aa48fa63e6895678089255,
0x89b843f289e743df89e88b468bd459f88c0900008fc590ec,
0x9110913c3df7915e4aca8fd0728f568b94e795e995b0,
0x95b8973298d19949996a99c39a289b0e9d5a9d9b7e9f9ef8,
0x9f234ca49547a29371a2a2ff4d919012a5cb4d9c0c9c8fbe,
0x55c18fba24b08fb94a9345097e7f6f566ab14eea34e48b2c,
0x789d373a8e8017f580248b6c8b997a3e66af3deb76553cb7,
0x563559564e9a5e81625856bf0e6d8e0e5b6d3e884c9e63de,
0x17f6187b6530562d5c4a541a53113dc69d984c7d5622,
0x561e7f495ed859753d4087704e1c0fea0d4936ba81179d5e,
0x8d18763b9c45764e77b993455432814882f7562581328418,
0x80bd55ea7962564354160e9d35ce560555f166f182e2362d,
0x753455f055ba549755720c410c965ed051480e762c620ea2,
0x9eab7d5a55de1075629d976d54948ccd71f6917663fc63b9,
0x63fe55692b439c722eb3519a34df0da751a7544d551e5513,
0x76668e2d688a75b180b68804878688c781b6841c10c144ec,
0x730447065b90830b6893567b26f47d2f41a37d736ed072b6,
0x917011d992083cfca6a90eac0ef972661ca2474e4fc27ff9,
0xfeb40fa9c5d651f2da048f347e09d7c0fec0e0a000075a3,
0xfed00006048118771a37e8e9d504e1a4e0435775b0d6cb2,
0x536736ac39dc537d36a54618589a4b6e822d544b57aa5a95,
0x97900003a52246573749eac4d099bed3cfe9f304c5b4fa9,
0x959e9fde845c3db672b267b33720632e7d253ef73e2c3a2a,
0x900852cc3e74367a45e9048e76405af00eb6787a7f2e58a7,
0x40bf567c9b8b5d747654a4349e854ce1000037fb611930da,
0x43f20000565d12a957a749639e06523470ae35ad00009d7c,
0x7c569b3957de176c5c5364d394d06335716486ad0d286d22,
0x4ae20d71000051fe1f0f5d8e97031dd19e81904c7b1f9b02,
0x5cd17ba3626863359aff7bcf9b2a7c7e00007c427c869c15,
0x7bfc9b0900009c1b493e9f5a55735bc34ffd9e984ff25260,
0x3e0652d15767505659b75e1297c89dab8f5c546997b49940,
0x97ba532c6130692c53da9c0a9d024c3b9641698050a67546,
0x176d99da5273000091599681915c000091518e97637f6d23,
0x6aca5611918e757a628503fc734f7c705c213cfd00004919,
0x76d69b9d4e2a0cd483be884200005c4a69c00000577a521f,
0x5df54ece6c3101f24f39549c54da529a8d8235fe000035f3,
0x6b52917c9fa59b97982e98b49aba9ea89e84717a7b14,
0x6bfa88187f7800005620a64a8e779f5300008dd48e4f,
0x9e1c8e016282837d8e288e757ad34a777a3e78d86cea8a67,
0x76078a5a9f266cce87d675c3a2b27853f8408d0c72e27371,
0x8b2d730274f18ceb4abb862f5fba88a044b70000183b6e05,
0x8a7e251b000060fd76679ad79d44936e9b8f87f50000,
0x8cf7732c97219bb035d672b24c077c51994a61596159,
0x4c049e96617d0000575f616f62a6623900003a5c61e253aa,
0x33f56364680235d25d578bc28fda8e39000050d91d467906,
0x533296380f3b4065000077fe00007cc25f1a7cda7a2d8066,
0x80637d4d750574f28994821a670c80627486805b74f08103,
0x7724898967cc75536ed187a987ce81c8878c8a498cad8b43,
0x772b74f884da363569b28da6000089a900006db987c14011,
0x74e73ddb717660a4619c3cd10000607700007f718b2d0000,
0x60e94b7e52203c183cc75ed776565531194412fe99036ddc,
0x70ad5cc161ad8a0f367700ee68464f0e45625b1f634c9f50,
0x9ea6626b054792db05df3fc5854c42b573ef51b536494942,
0x89e4934419db82ee3cc8783c674462df493389aa02a06bb3,
0x13054fab24ed50086d297a8436004ab125130000037e5fa4,
0x38003476edb041f00005101347a510e986c3743841649a4,
0x487516033b4516a0bff20fc02e52530058e323319835b82,
0x877d05b33c9951b251b89d3451c951cf51d13cdc51d34aa6,
0x51b351e2534251ed83cd693e372d5f7b520b5226523c52b5,
0x5257529452b952c57c15854252e0860d6b1300008ade5549,
0x6ed93f8009543fec533300000be26ccb1726681b73d5604a,
0x3eaa38cc16e871dd44a2536d537486ab537e000015961613,
0x77e653938a9b53a053ab53ae73a757723f59739c53c153c5,
0x6c494e4957fe53d93aab0b8f53e03feb2da353f60c775413,
0x7079552b66576d5b546d6b530d74555d548f54a447a6170d,
0xedd3db40d4d89bc269855474ced542f7417558655a90000,
0x18d7403a4552443566b310b4563766cd328a66a466ad564d,
0x564f78f156f1978753fe570056ef56ed8b663623124f5746,
0x41a56c6e708b574236b16c7e57e614165803145443635826,
0x4bf5585c58aa356158e058dc123c58fb5bff5743a1504278,
0x93d335a1591f68a636c36e59163e5a2455531692850559c9,
0xd4e6c816d2a17dc59d917fb17b26da66d71182816d559f9,
0x6e455aab5a6336e649a9000037085a9674655ad36fa12554,
0x3d851911373216b85e8352d05b7665885b7c7a0e4004485d,
0x2045bd561601a3459cc05a55bf35b9d4d105c051b445c13,
0x73ce5c141ca56b285c4948dd5c855ce95cef5d8b1df91e37,
0x5d105d185d461ea45cba5dd782fc382d4901204921738287,
0x38363bc25e2e6a8a00005e7a44bc0cd353a64eb7000053a8,
0x17715e095ef484825ef95efb38a05efc683e941b5f0d01c1,
0xf8943ade48ae133a5f3a688823d0000024715f6397bd6e6e,
0x5f7293408a365fa75db63d5f52501f6a70f8266891d6029e,
0x8a2960316685187739633dc73639579027b479713e40609e,
0x60b34982498f7a5374a450e15aa0616484246142f8a6,
0x6ed2618151f4065661875baa3fb7285f61d38b9d995d61d0,
0x3932298028c16023615c651e638b011862c5177062d52e0d,
0x636c49df3a17643863f8138e17fc00006f8a2e369814408c,
0x571d64e164e5947b3a66643a3a57654d6f164a284a236585,
0x656d655f307e65b549404b3765d140d8182965e065e35fdf,
0x3400661831f731f8664431a431a5664b0e75666751e66673,
0x1e3d323185f431c8531377c528f799a46702439c4a21,
0x3b2b69fa37c200006767676241cd90ed67d744e968226e50,
0x923c680133e66da0685d346f69e16a0b8adf697368c335cd,
0x690169003d323a01363c3b8067ac69618a4a42fc69366998,
0x3ba103c98363509069f93659212a6a4537036a9d3bf367b1,
0x6ac8919c3c0d6b1d092360de6b356b7427cd6eb53adb03b5,
0x1958374054213b5a6be13efc6bdc6c37248b48f16b516c5a,
0x82266c793dbc44c53dbd41a4490c49003cc936e53ceb0d32,
0x9b8331f924917f8f68376d256da16deb6d966d5c6e7c6f04,
0x497f40856e7285336f7451c700000000842e8b2100003e2f,
0x74533f8279cc6e4f5a91304b6ff8370d6f9d3e306efa1497,
0x403d455593f06f446f5c3d4e6f7491703d3b6f9f41446fd3,
0x4091415540393ff03fb4413f51df41564157414061dd704b,
0x707e70a7708170cc70d570d670df41043de871b471964277,
0x712b71455a88714a00005c9c4365714f936242c1712c445a,
0x4a274a2271ba8be870bd720e944272155911944372249341,
0x5605722e7240497468bd725572573e553044680d6f3d7282,
0x732b4823882b48ed88047328732e73cf73aa0c3a6a2e,
0x73c9744941e216e74a24662336c549b7498d49fb73f77415,
0x69034a26743905c33ed7000028ad74608eb2744773e47476,
0x83b9746c3730747493f16a2c748249534a8c415f4a798b8f,
0x5b468c03189e74c81988750e0000751e8ed91a4b5bd78eac,
0x9385754d754a7567756e4f823f044d13758e745d759e75b4,
0x7602762c7651764f766f767663f5769081ef37f86911690e,
0x76a176a576b776cc6f9f8462509d517d1e1c771e77267740,
0x64af5220775832ac77af8964896816c177f4000013764a12,
0x68ca78af78c778d396a5792e55e078d7793478b1760c8fb8,
0x88848b2b6083261c79868900690279805857799d7b39793c,
0x79a96e2a71263ea879c6910d79d40520445f520fb88200f8,
0x4000a920044e000000000b34000100000000000000000000,
0xc00004000000000000004000058003c00000000,
0x5c80dcadbbf343c9edee0fa4c126769beff2fbdef7fa320f,
0xaf44effefefd601100b0210081191020a888216024694400,
0xc48900004003003584435131689302020000000000000000,
0x40000100ac8082648c4090a15004d460d200182a689d,
0x9735d84f20f882c4281c758202944038a1a010c54d710dc4,
0xb9985b5e4301999f7803e220081f018940c903079a0d5290,
0x4fd1037c2102c020136eb583f5db77e54f909a171736000c,
0xba6e2f0954601e00687870229e56f325b78e0b17e6ef1777,
0x1b5b10c18d981812cfb631011a722c5bc0b6e2205cc31b82,
0xdae085ce40d654a9d00b480f4044091040d43bae1e642b44,
0x8178286183689a09ce7085b0384da02ec9087dbbf85ada2,
0x8e9d989d252000469f46e37fc9d5f4844dd6e30618b60912,
0x4000000002000000200000000000000000020000000,
0x88e006e783f5fdd7ef73d9bfc,
0xaefcffd26b8fe7f1babf6eaeef17a7dcb63e77b592c9a5d7,
0x4ab69b6e81b9674d54fe9bf1fe62526f36d7bffe4529f981,
0x65bd42a6003942008f6094004040afd2d1d700db98a07bb2,
0x52069820c816093d0000000100000a0108b2008000008804,
0x14204c100000000444a1001001410800f0404fdf5836f5f1,
0x80b567f540805000414e84c85a00d8602b01500116a140c4,
0x6ef2ac113920c0c40708090c96989bc41c106c982a8601a6,
0x1146e56dc4cb92c021101216729d69f4170ea22af481007b,
0xa408900b2c1039cc014a16f00a0b0c40ea1d440c450e0002]

def kscRows : List ℕ := [
0x30003001300200b72025202600a8300300ad20152225ff3c223c20182019201c201d3014301530083009300a300b300c300d300e300f3010301100b100d700f7226022642265221e223400b0203220332103212bffe0ffe1ffe526422640222022a52312220222072261225200a7203b2606260525cb25cf25ce25c725c625a125a025b325b225bd25bc219221902191219321943013226a226b221a223d221d2235222b222c2208220b2286228722822283222a222922272228ffe2,
0x21d221d42200220300b4ff5e02c702d802dd02da02d900b802db00a100bf02d0222e2211220f00a42109203025c125c025b725b6266426602661266526672663229925c825a325d025d1259225a425a525a825a725a625a92668260f260e261c261e00b62020202121952197219921962198266d2669266a266c327f321c211633c7212233c233d8212120ac00ae00000000000000000000000000000000000000000000000000000000000000000000000000000000000000000000,
0xff01ff02ff03ff04ff05ff06ff07ff08ff09ff0aff0bff0cff0dff0eff0fff10ff11ff12ff13ff14ff15ff16ff17ff18ff19ff1aff1bff1cff1dff1eff1fff20ff21ff22ff23ff24ff25ff26ff27ff28ff29ff2aff2bff2cff2dff2eff2fff30ff31ff32ff33ff34ff35ff36ff37ff38ff39ff3aff3bffe6ff3dff3eff3fff40ff41ff42ff43ff44ff45ff46ff47ff48ff49ff4aff4bff4cff4dff4eff4fff50ff51ff52ff53ff54ff55ff56ff57ff58ff59ff5aff5bff5cff5dffe3,
0x313131323133313431353136313731383139313a313b313c313d313e313f3140314131423143314431453146314731483149314a314b314c314d314e314f3150315131523153315431553156315731583159315a315b315c315d315e315f3160316131623163316431653166316731683169316a316b316c316d316e316f3170317131723173317431753176317731783179317a317b317c317d317e317f3180318131823183318431853186318731883189318a318b318c318d318e,
0x21702171217221732174217521762177217821790000000000000000000021602161216221632164216521662167216821690000000000000000000000000000039103920393039403950396039703980399039a039b039c039d039e039f03a003a103a303a403a503a603a703a803a90000000000000000000000000000000003b103b203b303b403b503b603b703b803b903ba03bb03bc03bd03be03bf03c003c103c303c403c503c603c703c803c9000000000000000000000000,
0x25002502250c251025182514251c252c25242534253c25012503250f2513251b251725232533252b253b254b2520252f25282537253f251d253025252538254225122511251a251925162515250e250d251e251f25212522252625272529252a252d252e25312532253525362539253a253d253e254025412543254425452546254725482549254a00000000000000000000000000000000000000000000000000000000000000000000000000000000000000000000000000000000,
0x3395339633972113339833c433a333a433a533a63399339a339b339c339d339e339f33a033a133a233ca338d338e338f33cf3388338933c833a733a833b033b133b233b333b433b533b633b733b833b93380338133823383338433ba33bb33bc33bd33be33bf33903391339233933394212633c033c1338a338b338c33d633c533ad33ae33af33db33a933aa33ab33ac33dd33d033d333c333c933dc33c6000000000000000000000000000000000000000000000000000000000000,
0xc600d000aa0126000001320000013f014100d8015200ba00de0166014a00003260326132623263326432653266326732683269326a326b326c326d326e326f3270327132723273327432753276327732783279327a327b24d024d124d224d324d424d524d624d724d824d924da24db24dc24dd24de24df24e024e124e224e324e424e524e624e724e824e92460246124622463246424652466246724682469246a246b246c246d246e00bd2153215400bc00be215b215c215d215e,
0xe6011100f001270131013301380140014200f8015300df00fe0167014b01493200320132023203320432053206320732083209320a320b320c320d320e320f3210321132123213321432153216321732183219321a321b249c249d249e249f24a024a124a224a324a424a524a624a724a824a924aa24ab24ac24ad24ae24af24b024b124b224b324b424b5247424752476247724782479247a247b247c247d247e247f24802481248200b900b200b32074207f2081208220832084,
0x304130423043304430453046304730483049304a304b304c304d304e304f3050305130523053305430553056305730583059305a305b305c305d305e305f3060306130623063306430653066306730683069306a306b306c306d306e306f3070307130723073307430753076307730783079307a307b307c307d307e307f3080308130823083308430853086308730883089308a308b308c308d308e308f309030913092309300000000000000000000000000000000000000000000,
0x30a130a230a330a430a530a630a730a830a930aa30ab30ac30ad30ae30af30b030b130b230b330b430b530b630b730b830b930ba30bb30bc30bd30be30bf30c030c130c230c330c430c530c630c730c830c930ca30cb30cc30cd30ce30cf30d030d130d230d330d430d530d630d730d830d930da30db30dc30dd30de30df30e030e130e230e330e430e530e630e730e830e930ea30eb30ec30ed30ee30ef30f030f130f230f330f430f530f600000000000000000000000000000000,
0x4100411041204130414041504010416041704180419041a041b041c041d041e041f0420042104220423042404250426042704280429042a042b042c042d042e042f00000000000000000000000000000000000000000000000000000000000004300431043204330434043504510436043704380439043a043b043c043d043e043f0440044104420443044404450446044704480449044a044b044c044d044e044f0000000000000000000000000000000000000000000000000000,
0x0,
0x0,
0x0,
0xac00ac01ac04ac07ac08ac09ac0aac10ac11ac12ac13ac14ac15ac16ac17ac19ac1aac1bac1cac1dac20ac24ac2cac2dac2fac30ac31ac38ac39ac3cac40ac4bac4dac54ac58ac5cac70ac71ac74ac77ac78ac7aac80ac81ac83ac84ac85ac86ac89ac8aac8bac8cac90ac94ac9cac9dac9faca0aca1aca8aca9acaaacacacafacb0acb8acb9acbbacbcacbdacc1acc4acc8acccacd5acd7ace0ace1ace4ace7ace8aceaacecacefacf0acf1acf3acf5acf6acfcacfdad00ad04ad06,
0xad0cad0dad0fad11ad18ad1cad20ad29ad2cad2dad34ad35ad38ad3cad44ad45ad47ad49ad50ad54ad58ad61ad63ad6cad6dad70ad73ad74ad75ad76ad7bad7cad7dad7fad81ad82ad88ad89ad8cad90ad9cad9dada4adb7adc0adc1adc4adc8add0add1add3addcade0ade4adf8adf9adfcadffae00ae01ae08ae09ae0bae0dae14ae30ae31ae34ae37ae38ae3aae40ae41ae43ae45ae46ae4aae4cae4dae4eae50ae54ae56ae5cae5dae5fae60ae61ae65ae68ae69ae6cae70ae78,
0xae79ae7bae7cae7dae84ae85ae8caebcaebdaebeaec0aec4aeccaecdaecfaed0aed1aed8aed9aedcaee8aeebaeedaef4aef8aefcaf07af08af0daf10af2caf2daf30af32af34af3caf3daf3faf41af42af43af48af49af50af5caf5daf64af65af79af80af84af88af90af91af95af9cafb8afb9afbcafc0afc7afc8afc9afcbafcdafceafd4afdcafe8afe9aff0aff1aff4aff8b000b001b004b00cb010b014b01cb01db028b044b045b048b04ab04cb04eb053b054b055b057b059,
0xb05db07cb07db080b084b08cb08db08fb091b098b099b09ab09cb09fb0a0b0a1b0a2b0a8b0a9b0abb0acb0adb0aeb0afb0b1b0b3b0b4b0b5b0b8b0bcb0c4b0c5b0c7b0c8b0c9b0d0b0d1b0d4b0d8b0e0b0e5b108b109b10bb10cb110b112b113b118b119b11bb11cb11db123b124b125b128b12cb134b135b137b138b139b140b141b144b148b150b151b154b155b158b15cb160b178b179b17cb180b182b188b189b18bb18db192b193b194b198b19cb1a8b1ccb1d0b1d4b1dcb1dd,
0xb1dfb1e8b1e9b1ecb1f0b1f9b1fbb1fdb204b205b208b20bb20cb214b215b217b219b220b234b23cb258b25cb260b268b269b274b275b27cb284b285b289b290b291b294b298b299b29ab2a0b2a1b2a3b2a5b2a6b2aab2acb2b0b2b4b2c8b2c9b2ccb2d0b2d2b2d8b2d9b2dbb2ddb2e2b2e4b2e5b2e6b2e8b2ebb2ecb2edb2eeb2efb2f3b2f4b2f5b2f7b2f8b2f9b2fab2fbb2ffb300b301b304b308b310b311b313b314b315b31cb354b355b356b358b35bb35cb35eb35fb364b365,
0xb367b369b36bb36eb370b371b374b378b380b381b383b384b385b38cb390b394b3a0b3a1b3a8b3acb3c4b3c5b3c8b3cbb3ccb3ceb3d0b3d4b3d5b3d7b3d9b3dbb3ddb3e0b3e4b3e8b3fcb410b418b41cb420b428b429b42bb434b450b451b454b458b460b461b463b465b46cb480b488b49db4a4b4a8b4acb4b5b4b7b4b9b4c0b4c4b4c8b4d0b4d5b4dcb4ddb4e0b4e3b4e4b4e6b4ecb4edb4efb4f1b4f8b514b515b518b51bb51cb524b525b527b528b529b52ab530b531b534b538,
0xb540b541b543b544b545b54bb54cb54db550b554b55cb55db55fb560b561b5a0b5a1b5a4b5a8b5aab5abb5b0b5b1b5b3b5b4b5b5b5bbb5bcb5bdb5c0b5c4b5ccb5cdb5cfb5d0b5d1b5d8b5ecb610b611b614b618b625b62cb634b648b664b668b69cb69db6a0b6a4b6abb6acb6b1b6d4b6f0b6f4b6f8b700b701b705b728b729b72cb72fb730b738b739b73bb744b748b74cb754b755b760b764b768b770b771b773b775b77cb77db780b784b78cb78db78fb790b791b792b796b797,
0xb798b799b79cb7a0b7a8b7a9b7abb7acb7adb7b4b7b5b7b8b7c7b7c9b7ecb7edb7f0b7f4b7fcb7fdb7ffb800b801b807b808b809b80cb810b818b819b81bb81db824b825b828b82cb834b835b837b838b839b840b844b851b853b85cb85db860b864b86cb86db86fb871b878b87cb88db8a8b8b0b8b4b8b8b8c0b8c1b8c3b8c5b8ccb8d0b8d4b8ddb8dfb8e1b8e8b8e9b8ecb8f0b8f8b8f9b8fbb8fdb904b918b920b93cb93db940b944b94cb94fb951b958b959b95cb960b968b969,
0xb96bb96db974b975b978b97cb984b985b987b989b98ab98db98eb9acb9adb9b0b9b4b9bcb9bdb9bfb9c1b9c8b9c9b9ccb9ceb9cfb9d0b9d1b9d2b9d8b9d9b9dbb9ddb9deb9e1b9e3b9e4b9e5b9e8b9ecb9f4b9f5b9f7b9f8b9f9b9faba00ba01ba08ba15ba38ba39ba3cba40ba42ba48ba49ba4bba4dba4eba53ba54ba55ba58ba5cba64ba65ba67ba68ba69ba70ba71ba74ba78ba83ba84ba85ba87ba8cbaa8baa9baabbaacbab0bab2bab8bab9babbbabdbac4bac8bad8bad9bafc,
0xbb00bb04bb0dbb0fbb11bb18bb1cbb20bb29bb2bbb34bb35bb36bb38bb3bbb3cbb3dbb3ebb44bb45bb47bb49bb4dbb4fbb50bb54bb58bb61bb63bb6cbb88bb8cbb90bba4bba8bbacbbb4bbb7bbc0bbc4bbc8bbd0bbd3bbf8bbf9bbfcbbffbc00bc02bc08bc09bc0bbc0cbc0dbc0fbc11bc14bc15bc16bc17bc18bc1bbc1cbc1dbc1ebc1fbc24bc25bc27bc29bc2dbc30bc31bc34bc38bc40bc41bc43bc44bc45bc49bc4cbc4dbc50bc5dbc84bc85bc88bc8bbc8cbc8ebc94bc95bc97,
0xbc99bc9abca0bca1bca4bca7bca8bcb0bcb1bcb3bcb4bcb5bcbcbcbdbcc0bcc4bccdbccfbcd0bcd1bcd5bcd8bcdcbcf4bcf5bcf6bcf8bcfcbd04bd05bd07bd09bd10bd14bd24bd2cbd40bd48bd49bd4cbd50bd58bd59bd64bd68bd80bd81bd84bd87bd88bd89bd8abd90bd91bd93bd95bd99bd9abd9cbda4bdb0bdb8bdd4bdd5bdd8bddcbde9bdf0bdf4bdf8be00be03be05be0cbe0dbe10be14be1cbe1dbe1fbe44be45be48be4cbe4ebe54be55be57be59be5abe5bbe60be61be64,
0xbe68be6abe70be71be73be74be75be7bbe7cbe7dbe80be84be8cbe8dbe8fbe90be91be98be99bea8bed0bed1bed4bed7bed8bee0bee3bee4bee5beecbf01bf08bf09bf18bf19bf1bbf1cbf1dbf40bf41bf44bf48bf50bf51bf55bf94bfb0bfc5bfccbfcdbfd0bfd4bfdcbfdfbfe1c03cc051c058c05cc060c068c069c090c091c094c098c0a0c0a1c0a3c0a5c0acc0adc0afc0b0c0b3c0b4c0b5c0b6c0bcc0bdc0bfc0c0c0c1c0c5c0c8c0c9c0ccc0d0c0d8c0d9c0dbc0dcc0ddc0e4,
0xc0e5c0e8c0ecc0f4c0f5c0f7c0f9c100c104c108c110c115c11cc11dc11ec11fc120c123c124c126c127c12cc12dc12fc130c131c136c138c139c13cc140c148c149c14bc14cc14dc154c155c158c15cc164c165c167c168c169c170c174c178c185c18cc18dc18ec190c194c196c19cc19dc19fc1a1c1a5c1a8c1a9c1acc1b0c1bdc1c4c1c8c1ccc1d4c1d7c1d8c1e0c1e4c1e8c1f0c1f1c1f3c1fcc1fdc200c204c20cc20dc20fc211c218c219c21cc21fc220c228c229c22bc22d,
0xc22fc231c232c234c248c250c251c254c258c260c265c26cc26dc270c274c27cc27dc27fc281c288c289c290c298c29bc29dc2a4c2a5c2a8c2acc2adc2b4c2b5c2b7c2b9c2dcc2ddc2e0c2e3c2e4c2ebc2ecc2edc2efc2f1c2f6c2f8c2f9c2fbc2fcc300c308c309c30cc30dc313c314c315c318c31cc324c325c328c329c345c368c369c36cc370c372c378c379c37cc37dc384c388c38cc3c0c3d8c3d9c3dcc3dfc3e0c3e2c3e8c3e9c3edc3f4c3f5c3f8c408c410c424c42cc430,
0xc434c43cc43dc448c464c465c468c46cc474c475c479c480c494c49cc4b8c4bcc4e9c4f0c4f1c4f4c4f8c4fac4ffc500c501c50cc510c514c51cc528c529c52cc530c538c539c53bc53dc544c545c548c549c54ac54cc54dc54ec553c554c555c557c558c559c55dc55ec560c561c564c568c570c571c573c574c575c57cc57dc580c584c587c58cc58dc58fc591c595c597c598c59cc5a0c5a9c5b4c5b5c5b8c5b9c5bbc5bcc5bdc5bec5c4c5c5c5c6c5c7c5c8c5c9c5cac5ccc5ce,
0xc5d0c5d1c5d4c5d8c5e0c5e1c5e3c5e5c5ecc5edc5eec5f0c5f4c5f6c5f7c5fcc5fdc5fec5ffc600c601c605c606c607c608c60cc610c618c619c61bc61cc624c625c628c62cc62dc62ec630c633c634c635c637c639c63bc640c641c644c648c650c651c653c654c655c65cc65dc660c66cc66fc671c678c679c67cc680c688c689c68bc68dc694c695c698c69cc6a4c6a5c6a7c6a9c6b0c6b1c6b4c6b8c6b9c6bac6c0c6c1c6c3c6c5c6ccc6cdc6d0c6d4c6dcc6ddc6e0c6e1c6e8,
0xc6e9c6ecc6f0c6f8c6f9c6fdc704c705c708c70cc714c715c717c719c720c721c724c728c730c731c733c735c737c73cc73dc740c744c74ac74cc74dc74fc751c752c753c754c755c756c757c758c75cc760c768c76bc774c775c778c77cc77dc77ec783c784c785c787c788c789c78ac78ec790c791c794c796c797c798c79ac7a0c7a1c7a3c7a4c7a5c7a6c7acc7adc7b0c7b4c7bcc7bdc7bfc7c0c7c1c7c8c7c9c7ccc7cec7d0c7d8c7ddc7e4c7e8c7ecc800c801c804c808c80a,
0xc810c811c813c815c816c81cc81dc820c824c82cc82dc82fc831c838c83cc840c848c849c84cc84dc854c870c871c874c878c87ac880c881c883c885c886c887c88bc88cc88dc894c89dc89fc8a1c8a8c8bcc8bdc8c4c8c8c8ccc8d4c8d5c8d7c8d9c8e0c8e1c8e4c8f5c8fcc8fdc900c904c905c906c90cc90dc90fc911c918c92cc934c950c951c954c958c960c961c963c96cc970c974c97cc988c989c98cc990c998c999c99bc99dc9c0c9c1c9c4c9c7c9c8c9cac9d0c9d1c9d3,
0xc9d5c9d6c9d9c9dac9dcc9ddc9e0c9e2c9e4c9e7c9ecc9edc9efc9f0c9f1c9f8c9f9c9fcca00ca08ca09ca0bca0cca0dca14ca18ca29ca4cca4dca50ca54ca5cca5dca5fca60ca61ca68ca7dca84ca98cabccabdcac0cac4cacccacdcacfcad1cad3cad8cad9cae0caeccaf4cb08cb10cb14cb18cb20cb21cb41cb48cb49cb4ccb50cb58cb59cb5dcb64cb78cb79cb9ccbb8cbd4cbe4cbe7cbe9cc0ccc0dcc10cc14cc1ccc1dcc21cc22cc27cc28cc29cc2ccc2ecc30cc38cc39cc3b,
0xcc3ccc3dcc3ecc44cc45cc48cc4ccc54cc55cc57cc58cc59cc60cc64cc66cc68cc70cc75cc98cc99cc9ccca0cca8cca9ccabccacccadccb4ccb5ccb8ccbcccc4ccc5ccc7ccc9ccd0ccd4cce4ccecccf0cd01cd08cd09cd0ccd10cd18cd19cd1bcd1dcd24cd28cd2ccd39cd5ccd60cd64cd6ccd6dcd6fcd71cd78cd88cd94cd95cd98cd9ccda4cda5cda7cda9cdb0cdc4cdcccdd0cde8cdeccdf0cdf8cdf9cdfbcdfdce04ce08ce0cce14ce19ce20ce21ce24ce28ce30ce31ce33ce35,
0xce58ce59ce5cce5fce60ce61ce68ce69ce6bce6dce74ce75ce78ce7cce84ce85ce87ce89ce90ce91ce94ce98cea0cea1cea3cea4cea5ceacceadcec1cee4cee5cee8ceebceeccef4cef5cef7cef8cef9cf00cf01cf04cf08cf10cf11cf13cf15cf1ccf20cf24cf2ccf2dcf2fcf30cf31cf38cf54cf55cf58cf5ccf64cf65cf67cf69cf70cf71cf74cf78cf80cf85cf8ccfa1cfa8cfb0cfc4cfe0cfe1cfe4cfe8cff0cff1cff3cff5cffcd000d004d011d018d02dd034d035d038d03c,
0xd044d045d047d049d050d054d058d060d06cd06dd070d074d07cd07dd081d0a4d0a5d0a8d0acd0b4d0b5d0b7d0b9d0c0d0c1d0c4d0c8d0c9d0d0d0d1d0d3d0d4d0d5d0dcd0ddd0e0d0e4d0ecd0edd0efd0f0d0f1d0f8d10dd130d131d134d138d13ad140d141d143d144d145d14cd14dd150d154d15cd15dd15fd161d168d16cd17cd184d188d1a0d1a1d1a4d1a8d1b0d1b1d1b3d1b5d1bad1bcd1c0d1d8d1f4d1f8d207d209d210d22cd22dd230d234d23cd23dd23fd241d248d25c,
0xd264d280d281d284d288d290d291d295d29cd2a0d2a4d2acd2b1d2b8d2b9d2bcd2bfd2c0d2c2d2c8d2c9d2cbd2d4d2d8d2dcd2e4d2e5d2f0d2f1d2f4d2f8d300d301d303d305d30cd30dd30ed310d314d316d31cd31dd31fd320d321d325d328d329d32cd330d338d339d33bd33cd33dd344d345d37cd37dd380d384d38cd38dd38fd390d391d398d399d39cd3a0d3a8d3a9d3abd3add3b4d3b8d3bcd3c4d3c5d3c8d3c9d3d0d3d8d3e1d3e3d3ecd3edd3f0d3f4d3fcd3fdd3ffd401,
0xd408d41dd440d444d45cd460d464d46dd46fd478d479d47cd47fd480d482d488d489d48bd48dd494d4a9d4ccd4d0d4d4d4dcd4dfd4e8d4ecd4f0d4f8d4fbd4fdd504d508d50cd514d515d517d53cd53dd540d544d54cd54dd54fd551d558d559d55cd560d565d568d569d56bd56dd574d575d578d57cd584d585d587d588d589d590d5a5d5c8d5c9d5ccd5d0d5d2d5d8d5d9d5dbd5ddd5e4d5e5d5e8d5ecd5f4d5f5d5f7d5f9d600d601d604d608d610d611d613d614d615d61cd620,
0xd624d62dd638d639d63cd640d645d648d649d64bd64dd651d654d655d658d65cd667d669d670d671d674d683d685d68cd68dd690d694d69dd69fd6a1d6a8d6acd6b0d6b9d6bbd6c4d6c5d6c8d6ccd6d1d6d4d6d7d6d9d6e0d6e4d6e8d6f0d6f5d6fcd6fdd700d704d711d718d719d71cd720d728d729d72bd72dd734d735d738d73cd744d747d749d750d751d754d756d757d758d759d760d761d763d765d769d76cd770d774d77cd77dd781d788d789d78cd790d798d799d79bd79d,
0x0,
0x4f3d4f73504750f952a053ef547554e556095ac15bb6668767b667b767ef6b4c73c275c27a3c82db8304885788888a368cc88dcf8efb8fe699d5523b53745404606a61646bbc73cf811a89ba89d295a34f83520a58be597859e65e725e7961c763c0674667ec687f6f97764e770b78f57a087aff7c21809d826e82718aeb95934e6b559d66f76e3478a37aed845b8910874e97a852d8574e582a5d4c611f61be6221656267d16a446e1b751875b376e377b07d3a90af945194529f95,
0x53235cac753280db92409598525b580859dc5ca15d175eb75f3a5f4a61776c5f757a75867ce07d737db17f8c81548221859189418b1b92fc964d9c474ecb4ef7500b51f1584f6137613e6168653969ea6f1175a5768676d67b8782a584cbf90093a7958b55805ba25751f9017cb37fb991b5502853bb5c455de862d2636e64da64e76e2070ac795b8ddd8e1ef902907d924592f84e7e4ef650655dfe5efa61066957817186548e4793759a2b4e5e5091677068405109528d52926aa2,
0x77bc92109ed452ab602f8ff2504861a963ed64ca683c6a846fc0818889a196945805727d72ac75047d797e6d80a9898b8b7490639d5162896c7a6f547d507f3a8a23517c614a7b9d8b199257938c4eac4fd3501e50be510652c152cd537f577058835e9a5f91617661ac64ce656c666f66bb66f468976d87708570f1749f74a574ca75d9786c78ec7adf7af67d457d938015803f811b83968b668f15901593e1980398389a5a9be84fc25553583a59515b635c4660b86212684268b0,
0x68e86eaa754c767878ce7a3d7cfb7e6b7e7c8a088aa18c3f968e9dc453e453e9544a547156fa59d15b645c3b5eab62f765376545657266a067af69c16cbd75fc7690777e7a3f7f94800380a1818f82e682fd83f085c1883188b48aa5f9038f9c932e96c798679ad89f1354ed659b66f2688f7a408c379d6056f057645d11660668b168cd6efe7428889e9be46c68f9049aa84f9b516c5171529f5b545de56050606d62f163a7653b73d97a7a86a38ca2978f4e325be16208679c74dc,
0x79d183d38a878ab28de8904e934b98465ed369e885ff90edf90551a05b985bec616368fa6b3e704c742f74d87ba17f5083c589c08cab95dc9928522e605d62ec90024f8a5149532158d95ee366e06d38709a72c273d67b5080f1945b5366639b7f6b4e565080584a58de602a612762d069d09b415b8f7d1880b18f5f4ea450d154ac55ac5b0c5da05de7652a654e68216a4b72e1768e77ef7d5e7ff981a0854e86df8f038f4e90ca99039a559bab4e184e454e5d4ec74ff1517752fe,
0x534053e353e5548e5614577557a25bc75d875ed061fc62d8655167b867e969cb6b506bc66bec6c426e9d707872d77396740377bf77e97a767d7f800981fc8205820a82df88628b338cfc8ec0901190b1926492b699d29a459ce99dd79f9c570b5c4083ca97a097ab9eb4541b7a987fa488d98ecd90e158005c4863987a9f5bae5f137a797aae828e8eac5026523852f85377570862f363726b0a6dc3773753a5735785688e7695d5673a6ac36f708a6d8ecc994bf90666776b788cb4,
0x9b3cf90753eb572d594e63c669fb73ea78457aba7ac57cfe8475898f8d73903595a852fb574775477b6083cc921ef9086a58514b524b5287621f68d86975969950c552a452e461c365a4683969ff747e7b4b82b983eb89b28b398fd19949f9094eca599764d266116a8e7434798179bd82a9887e887f895ff90a93264f0b53ca602562716c727d1a7d664e98516277dc80af4f014f0e5176518055dc5668573b57fa57fc5914594759935bc45c905d0e5df15e7e5fcc628065d765e3,
0x671e671f675e68cb68c46a5f6b3a6c236c7d6c826dc773987426742a748274a37578757f788178ef794179477948797a7b957d007dba7f888006802d808c8a188b4f8c488d779321932498e299519a0e9a0f9a659e927dca4f76540962ee685491d155ab513af90bf90c5a1c61e6f90d62cf62fff90ef90ff910f911f912f91390a3f914f915f916f917f9188afef919f91af91bf91c6696f91d7156f91ef91f96e3f920634f637a5357f921678f69606e73f9227537f923f924f925,
0x7d0df926f927887256ca5a18f928f929f92af92bf92c4e43f92d5167594867f08010f92e59735e74649a79ca5ff5606c62c8637b5be75bd752aaf92f59745f296012f930f931f9327459f933f934f935f936f937f93899d1f939f93af93bf93cf93df93ef93ff940f941f942f9436fc3f944f94581bf8fb260f1f946f9478166f948f9495c3ff94af94bf94cf94df94ef94ff950f9515ae98a25677b7d10f952f953f954f955f956f95780fdf958f9595c3c6ce5533f6eba591a8336,
0x4e394eb64f4655ae571858c75f5665b765e66a806bb56e4d77ed7aef7c1e7dde86cb88929132935b64bb6fbe737a75b890545556574d61ba64d466c76de16e5b6f6d6fb975f0804381bd854189838ac78b5a931f6c9375537b548e0f905d5510580258585e626207649e68e075767cd687b39ee84ee35788576e59275c0d5cb15e365f85623464e173b381fa888b8cb8968a9edb5b855fb760b35012520052305716583558575c0e5c605cf65d8b5ea65f9260bc6311638964176843,
0x68f96ac26dd86e216ed46fe471fe76dc777979b17a3b840489a98ced8df38e4890039014905390fd934d967697dc6bd27006725872a27368776379bf7be47e9b8b8058a960c7656665fd66be6c8c711e71c98c5a98134e6d7a814edd51ac51cd52d5540c61a76771685068df6d1e6f7c75bc77b37ae580f484639285515c6597675c679375d87ac78373f95a8c469017982d5c6f81c0829a9041906f920d5f975d9d6a5971c8767b7b4985e48b0491279a30558761f6f95b76697f85,
0x863f87ba88f8908ff95c6d1b70d973de7d61843df95d916a99f1f95e4e8253756b046b12703e721b862d9e1e524c8fa35d5064e5652c6b166feb7c437e9c85cd896489bd62c981d8881f5eca67176d6a72fc7405746f878290de4f865d0d5fa0840a51b763a075654eae5006516951c968816a117cae7cb17ce7826f8ad28f1b91cf4fb6513752f554425eec616e623e65c56ada6ffe792a85dc882395ad9a629a6a9e979ece529b66c66b77701d792b8f6297426190620065236f23,
0x714974897df4806f84ee8f269023934a51bd521752a36d0c70c888c25ec965826bae6fc27c3e73754ee44f3656f9f95f5cba5dba601c73b27b2d7f9a7fce8046901e923496f6974898189f614f8b6fa779ae91b496b752def960648864c46ad36f5e7018721076e780018606865c8def8f0597329b6f9dfa9e75788c797f7da083c993049e7f9e938ad658df5f046727702774cf7c60807e51217028726278ca8cc28cda8cf496f74e8650da5bee5ed6659971ce764277ad804a84fc,
0x907c9b279f8d58d85a415c626a136dda6f0f763b7d2f7e37851e893893e4964b528965d267f369b46d416e9c700f7409746075597624786b8b2c985e516d622e96784f96502b5d196dea7db88f2a5f8b61446817f961968652d2808b51dc51cc695e7a1c7dbe83f196754fda52295398540f550e5c6560a7674e68a86d6c728172f874067483f96275e27c6c7f797fb8838988cf88e191cc91d096e29bc9541d6f7e71d0749885fa8eaa96a39c579e9f67976dcb743381e89716782c,
0x7acb7b207c926469746a75f278bc78e899ac9b549ebb5bde5e556f20819c83ab90884e07534d5a295dd25f4e6162633d666966fc6eff6f2b7063779e842c8513883b8f1399459c3b551c62b9672b6cab8309896a977a4ea159845fd85fd9671b7db27f548292832b83bd8f1e909957cb59b95a925bd06627679a68856bcf71647f758cb78ce390819b4581088c8a964c9a409ea55b5f6c13731b76f276df840c51aa8993514d519552c968c96c94770477207dbf7dec97629eb56ec5,
0x851151a5540d547d660e669d69276e9f76bf7791831784c2879f916992989cf488824fae519252df59c65e3d61556478647966ae67d06a216bcd6bdb725f72617441773877db801782bc83058b008b288c8c67286c90726776ee77667a469da96b7f6c92592267268499536f589359995edf63cf663467736e3a732b7ad782d7932852d95deb61ae61cb620a62c764ab65e069596b666bcb712173f7755d7e46821e8302856a8aa38cbf97279d6158a89ed85011520e543b554f6587,
0x6c767d0a7d0b805e868a958096ef52ff6c95726954735a9a5c3e5d4b5f4c5fae672a68b669636e3c6e4477097c737f8e85878b0e8ff797619ef45cb760b6610d61ab654f65fb65fc6c116cef739f73c97de195945bc6871c8b10525d535a62cd640f64b267346a386cca73c0749e7b947c957e1b818a823685848feb96f999c14f34534a53cd53db62cc642c6500659169c36cee6f5873ed7554762276e476fc78d078fb792c7d46822c87e08fd4981298ef52c362d464a56e246f51,
0x767c8dcb91b192629aee9b435023508d574a59a85c285e475f77623f653e65b965c16609678b699c6ec278c57d2180aa8180822b82b384a1868c8a2a8b1790a696329f90500d4ff3f96357f95f9862dc6392676f6e43711976c380cc80da88f488f589198ce08f29914d966a4f2f4f705e1b67cf6822767d767e9b445e616a0a716971d4756af9647e41854385e998dc4f107b4f7f7095a551e15e0668b56c3e6c4e6cdb72af7bc483036cd5743a50fb528858c164d86a9774a77656,
0x78a7861795e29739f965535e5f018b8a8fa88faf908a522577a59c499f084e19500251755c5b5e77661e663a67c468c570b3750175c579c97add8f2799209a084fdd582158315bf6666e6b656d116e7a6f7d73e4752b83e988dc89138b5c8f144f0f50d55310535c5b935fa9670d798f8179832f8514890789868f398f3b99a59c12672c4e764ff859495c015cef5cf0636768d270fd71a2742b7e2b84ec8702902292d29cf34e0d4ed84fef50855256526f5426549057e0592b5a66,
0x5b5a5b755bcc5e9cf9666276657765a76d6e6ea572367b267c3f7f3681508151819a8240829983a98a038ca08ce68cfb8d748dba90e891dc961c964499d99ce7531752065429567458b35954596e5fff61a4626e66106c7e711a76c67c897cde7d1b82ac8cc196f0f9674f5b5f175f7f62c25d29670b68da787c7e439d6c4e1550995315532a535159835a625e8760b2618a624962796590678769a76bd46bd66bd76bd86cb8f968743575fa7812789179d579d87c837dcb7fe180a5,
0x813e81c283f2871a88e88ab98b6c8cbb9119975e98db9f3b56ac5b2a5f6c658c6ab36baf6d5c6ff17015725d73ad8ca78cd3983b61916c3780589a014e4d4e8b4e9b4ed54f3a4f3c4f7f4fdf50ff53f253f8550655e356db58eb59625a115beb5bfa5c045df35e2b5f99601d6368659c65af67f667fb68ad6b7b6c996cd76e23700973457802793e7940796079c17be97d177d728086820d838e84d186c788df8a508a5e8b1d8cdc8d668fad90aa98fc99df9e9d524af9696714f96a,
0x5098522a5c7165636c5573ca7523759d7b97849c917897304e7764926bba715e85a94e09f96b674968ee6e17829f8518886b63f76f81921298af4e0a50b750cf511f554655aa56175b405c195ce05e385e8a5ea05ec260f368516a616e58723d724072c076f879657bb17fd488f389f48a738c618cde971c585e74bd8cfd55c7f96c7a617d2282727272751f7525f96d7b19588558fb5dbc5e8f5eb65f9060556292637f654d669166d966f8681668f27280745e7b6e7d6e7dd67f72,
0x80e5821285af897f8a93901d92e49ecd9f205915596d5e2d60dc6614667367906c506dc56f5f77f378a984c691cb932b4ed950ca514855845b0b5ba36247657e65cb6e32717d74017444748774bf766c79aa7dda7e557fa8817a81b38239861a87ec8a758de3907892919425994d9bae53685c5169546cc46d296e2b820c859b893b8a2d8aaa96ea9f67526166b96bb27e9687fe8d0d9583965d651d6d8971eef96e57ce59d35bac602760fa6210661f665f732973f976db77017b6c,
0x8056807281658aa091924e1652e26b726d177a057b397d30f96f8cb053ec562f58515bb55c0f5c115de2624063836414662d68b36cbc6d886eaf701f70a471d27526758f758e76197b117be07c2b7d207d39852c856d86078a34900d906190b592b797f69a374fd75c6c675f6d917c9f7e8c8b168d16901f5b6b5dfd640d84c0905c98e173875b8b609a677e6dde8a1f8aa69001980c5237f9707051788e9396887091d74fee53d755fd56da578258fd5ac25b885cab5cc05e256101,
0x620d624b6388641c653665786a396b8a6c346d196f3171e772e97378740774b27626776179c07a577aea7cb97d8f7dac7e617f9e81298331849084da85ea88968ab08b908f3890429083916c929692b9968b96a796a896d69700980899969ad39b1a53d4587e59195b705bbf6dd16f5a719f742174b9808583fd5de15f875faa604265ec6812696f6a536b896d356df373e376fe77ac7b4d7d148123821c834084f485638a628ac49187931e980699b4620c88538ff092655d075d27,
0x5d69745f819d87686fd562fe7fd2893689724e1e4e5850e752dd5347627f66077e698805965e4f8d5319563659cb5aa45c385c4e5c4d5e025f11604365bd662f664267be67f4731c77e2793a7fc5849484cd89968a668a698ae18c558c7a57f45bd45f0f606f62ed690d6b966e5c71847bd287558b588efe98df98fe4f384f814fe1547b5a205bb8613c65b0666871fc7533795e7d33814e81e3839885aa85ce87038a0a8eab8f9bf9718fc559315ba45be660895be95c0b5fc36c81,
0xf9726df1700b751a82af8af64ec05341f97396d96c0f4e9e4fc45152555e5a255ce86211725982bd83aa86fe88598a1d963f96c599139d099d5d580a5cb35dbd5e4460e1611563e16a026e2591029354984e9c109f775b895cb86309664f6848773c96c1978d98549b9f65a18b018ecb95bc55355ca95dd65eb56697764c83f495c758d362bc72ce9d284ef0592e600f663b6b8379e79d26539354c057c35d16611b66d66daf788d827e969897445384627c63966db27e0a814b984d,
0x6afb7f4c9daf9e1a4e5f503b51b6591c60f963f66930723a8036f97491ce5f31f975f9767d0482e5846f84bb85e58e8df9774f6ff978f97958e45b43605963da6518656d6698f97a694a6a236d0b7001716c75d2760d79b37a70f97b7f8af97c8944f97d8b9391c0967df97e990a57045fa165bc6f01760079a68a9e99ad9b5a9f6c510461b662916a8d81c6504358305f6671098a008afa5b7c86164ffa513c56b4594463a96df95daa696d51864e884f59f97ff980f9815982f982,
0xf9836b5f6c5df98474b57916f9858207824583398f3f8f5df9869918f987f988f9894ea6f98a57df5f796613f98bf98c75ab7e798b6ff98d90069a5b56a5582759f85a1f5bb4f98e5ef6f98ff9906350633bf991693d6c876cbf6d8e6d936df56f14f99270df71367159f99371c371d5f994784f786ff9957b757de3f9967e2ff997884d8edff998f999f99a925bf99b9cf6f99cf99df99e60856d85f99f71b1f9a0f9a195b153adf9a2f9a3f9a467d3f9a5708e71307430827682d2,
0xf9a695bb9ae59e7d66c4f9a771c18449f9a8f9a9584bf9aaf9ab5db85f71f9ac6620668e697969ae6c386cf36e366f416fda701b702f715071df7370f9ad745bf9ae74d476c87a4e7e93f9aff9b082f18a608fcef9b19348f9b29719f9b3f9b44e42502af9b5520853e166f36c6d6fca730a777f7a6282ae85dd8602f9b688d48a638b7d8c6bf9b792b3f9b8971398104e944f0d4fc950b25348543e543355da586258ba59675a1b5be4609ff9b961ca655665ff666468a76c5a6fb3,
0x70cf71ac73527b7d87088aa49c329f075c4b6c8373447389923a6eab7465761f7a697e15860a514058c564c174ee751576707fc1909596cd99546e2674e67aa97aaa81e586d987788a1b5a495b8c5b9b68a169006d6373a97413742c78977de97feb81188155839e8c4c962e981166f05f8065fa67896c6a738b502d5a036b6a77ee59165d6c5dcd7325754ff9baf9bb50e551f9582f592d599659da5be5f9bcf9bd5da262d76416649364fef9be66dcf9bf6a48f9c071ff7464f9c1,
0x7a887aaf7e477e5e80008170f9c287ef89818b209059f9c390809952617e6b326d747e1f89258fb14fd150ad519752c757c758895bb95eb8614269956d8c6e676eb6719474627528752c8073833884c98e0a939493def9c44e8e4f515076512a53c853cb53f35b875bd35c24611a618265f4725b7397744076c27950799179b97d067fbd828b85d5865e8fc2904790f591ea968596e896e952d65f6765ed6631682f715c7a3690c1980a4e91f9c56a526b9e6f907189801882b88553,
0x904b969596f297fb851a9b314e90718a96c45143539f54e15713571257a35a9b5ac45bc36028613f63f46c856d396e726e907230733f745782d188818f459060f9c6966298589d1b67088d8a925e4f4d504950de5371570d59d45a015c09617066906e2d7232744b7def80c3840e8466853f875f885b89188b02905597cb9b4f4e734f915112516af9c7552f55a95b7a5ba55e7c5e7d5ebe60a060df6108610963c465386709f9c867d467daf9c9696169626cb96d27f9ca6e38f9cb,
0x6fe173367337f9cc745c7531f9cd7652f9cef9cf7dad81fe843888d58a988adb8aed8e308e42904a903e907a914991c9936ef9d0f9d15809f9d26bd3808980b2f9d3f9d45141596b5c39f9d5f9d66f6473a780e48d07f9d79217958ff9d8f9d9f9daf9db807f620e701c7d68878df9dc57a0606961476bb78abe928096b14e59541f6deb852d967097f398ee63d66ce3909151dd61c981ba9df94f9d501a51005b9c610f61ff64ec69056bc5759177e37fa98264858f87fb88638abc,
0x8b7091ab4e8c4ee54f0af9ddf9de593759e8f9df5df25f1b5f5b6021f9e0f9e1f9e2f9e3723e73e5f9e4757075cdf9e579fbf9e6800c8033808482e18351f9e7f9e88cbd8cb39087f9e9f9ea98f4990cf9ebf9ec703776ca7fca7fcc7ffc8b1a4eba4ec152035370f9ed54bd56e059fb5bc55f155fcd6e6ef9eef9ef7d6a8335f9f086938a8df9f1976d9777f9f2f9f34e004f5a4f7e58f965e56ea2903893b099b94efb58ec598a59d96041f9f4f9f57a14f9f6834f8cc351655344,
0xf9f7f9f8f9f94ecd52695b5582bf4ed4523a54a859c959ff5b505b575b5c606361486ecb7099716e738674f775b578c17d2b800581ea8328851785c98aee8cc796cc4f5c52fa56bc65ab6628707c70b872357dbd828d914c96c09d725b7168e76b986f7a76de5c9166ab6f5b7bb47c2a883696dc4e084ed75320583458bb58ef596c5c075e335e845f35638c66b267566a1f6aa36b0c6f3f7246f9fa7350748b7ae07ca7817881df81e7838a846c8523859485cf88dd8d1391ac9577,
0x969c518d54c957285bb0624d6750683d68936e3d6ed3707d7e2188c18ca18f099f4b9f4e722d7b8f8acd931a4f474f4e5132548059d05e9562b56775696e6a176cae6e1a72d9732a75bd7bb87d3582e783f9845785f78a5b8caf8e87901990b896ce9f5f52e3540a5ae15bc2645865756ef472c4f9fb76847a4d7b1b7c4d7e3e7fdf837b8b2b8cca8d648de18e5f8fea8ff9906993d14f434f7a50b351685178524d526a5861587c59605c085c555edb609b623068136bbf6c086fb1,
0x714e742075307538755176727b4c7b8b7bad7bc67e8f8a6e8f3e8f49923f92939322942b96fb985a986b991e5207622a62986d5976647aca7bc07d7653605cbe5e976f3870b97c9897119b8e9ede63a5647a87764e014e954ead505c5075544859c35b9a5e405ead5ef75f8160c5633a653f657465cc6676667867fe69686a896b636c406dc06de86e1f6e5e701e70a1738e73fd753a775b7887798e7a0b7a7d7cbe7d8e82478a028aea8c9e912d914a91d8926692cc932097069756,
0x975c98029f0e52365291557c58245e1d5f1f608c63d068af6fdf796d7b2c81cd85ba88fd8af88e44918d9664969b973d984c9f4a4fce514651cb52a956325f145f6b63aa64cd65e9664166fa66f9671d689d68d769fd6f156f6e716771e5722a74aa773a7956795a79df7a207a957c977cdf7d447e70808785fb86a48a548abf8d998e819020906d91e3963b96d59ce565cf7c078db393c35b585c0a535262d9731d50275b975f9e60b0616b68d56dd9742e7a2e7d427d9c7e31816b,
0x8e2a8e35937e94184f5057505de65ea7632b7f6a4e3b4f4f4f8f505a59dd80c4546a546855fe594f5b995dde5eda665d673167f1682a6ce86d326e4a6f8d70b773e075877c4c7d027d2c7da2821f86db8a3b8a858d708e8a8f339031914e9152944499d07af97ca54fca510151c657c85bef5cfb66596a3d6d5a6e966fec710c756f7ae388229021907596cb99ff83014e2d4ef2884691cd537d6adb696b6c41847a589e618e66fe62ef70dd751175c77e5284b88b498d084e4b53ea,
0x54ab573057405fd763016307646f652f65e8667a679d67b36b626c606c9a6f2c77e57825794979577d1980a2810281f3829d82b787188a8cf9fc8d048dbe907276f47a197a377e548077550755d45875632f64226649664b686d699b6b846d256eb173cd746874a1755b75b976e1771e778b79e67e097e1d81fb852f88978a3a8cd18eeb8fb0903293ad9663967397074f8453f159ea5ac95e19684e74c675be79e97a9281a386ed8cea8dcc8fed659f6715f9fd57f76f577ddd8f2f,
0x93f696c65fb561f26f844e144f98501f53c955df5d6f5dee6b216b6478cb7b9af9fe8e498eca906e6349643e77407a84932f947f9f6a64b06faf71e674a874da7ac47c127e827cb27e988b9a8d0a947d9910994c52395bdf64e6672d7d2e50ed53c358796158615961fa65ac7ad98b928b9650095021527555315a3c5ee05f706134655e660c663666a269cd6ec46f32731676217a938139825983d684bc50b557f05bc05be85f6963a178267db583dc852191c791f5518a67f57b56,
0x8cac51c459bb60bd8655501cf9ff52545c3a617d621a62d364f265a56ecc7620810a8e60965f96bb4edf5343559859295ddd64c56cc96dfa73947a7f821b85a68ce48e10907791e795e1962197c651f854f255865fb964a46f887db48f1f8f4d943550c95c166cbe6dfb751b77bb7c3d7c648a798ac2581e59be5e1663777252758a776b8adc8cbc8f125ef366746df8807d83c18acb97519bd6fa00524366ff6d956eef7de08ae6902e905e9ad4521d527f54e86194628462db68a2,
0x6912695a6a3570927126785d7901790e79d27a0d8096827882d5834985498c828d859162918b91ae4fc356d171ed77d7870089f85bf85fd6675190a853e2585a5bf560a4618164607e3d80708525928364ae50ac5d146700589c62bd63a8690e69786a1e6e6b76ba79cb82bb84298acf8da88ffd9112914b919c93109318939a96db9a369c0d4e11755c795d7afa7b517bc97e2e84c48e598e748ef890106625693f744351fa672e9edc51455fe06c9687f2885d887760b481b58403,
0x8d0553d6543956345a365c31708a7fe0805a810681ed8da391899a5f9df250744ec453a060fb6e2c5c644f88502455e45cd95e5f606568946cbb6dc471be75d475f476617a1a7a497dc77dfb7f6e81f486a98f1c96c999b39f52524752c598ed89aa4e0367d26f064fb55be267956c886d78741b782791dd937c87c479e47a315feb4ed654a4553e58ae59a560f0625362d6673669558235964099b199dd502c53535544577cfa016258fa0264e2666b67dd6fc16fef742274388a17,
0x94385451560657665f48619a6b4e705870ad7dbb8a95596a812b63a27708803d8caa5854642d69bb5b955e116e6ffa038569514c53f0592a6020614b6b866c706cf07b1e80ce82d48dc690b098b1fa0464c76fa464916504514e5410571f8a0e615f6876fa0575db7b527d71901a580669cc817f892a900098395078595759ac6295900f9b2a615d727995d657615a465df4628a64ad64fa67776ce26d3e722c743678347f7782ad8ddb981752245742677f724874e38ca98fa69211,
0x962a516b53ed634c4f695504609665576c9b6d7f724c72fd7a1789878c9d5f6d6f8e70f981a8610e4fbf504f624172477bc77de87fe9904d97ad9a198cb6576a5e7367b0840d8a5554205b165e635ee25f0a658380ba853d9589965b4f485305530d530f548654fa57035e036016629b62b16355fa066ce16d6675b1783280de812f82de846184b2888d8912900b92ea98fd9b915e4566b466dd70117206fa074ff5527d5f6a615367536a196f0274e2796888688c7998c798c49a43,
0x54c17a1f69538af78c4a98a899ae5f7c62ab75b276ae88ab907f964253395f3c5fc56ccc73cc7562758b7b4682fe999d4e4f903c4e0b4f5553a6590f5ec866306cb37455837787668cc09050971e9c1558d15b7886508b149db45bd26068608d65f16c576f226fa3701a7f557ff095919592965097d352728f4451fd542b54b85563558a6abb6db57dd88266929c96779e79540854c876d286e495a495d4965c4ea24f0959ee5ae65df760526297676d68416c866e2f7f38809b822a,
0xfa08fa0998054ea5505554b35793595a5b695bb361c869776d77702387f989e38a728ae7908299ed9ab852be683850165e78674f8347884c4eab541156ae73e6911597ff9909995799995653589f865b8a3161b26af6737b8ed26b4796aa9a57595572008d6b97694fd45cf45f2661f8665b6ceb70ab738473b973fe7729774d7d437d627e2382378852fa0a8ce29249986f5b517a74884098015acc4fe05354593e5cfd633e6d7972f98105810783a292cf98304ea851445211578b,
0x5f626cc26ece7005705070af719273e97469834a87a28861900890a293a399a8516e5f5760e0616766b385598e4a91af978b4e4e4e92547c58d558fa597d5cb55f2762366248660a66676beb6d696dcf6e566ef86f946fe06fe9705d72d07425745a74e07693795c7cca7e1e80e182a6846b84bf864e865f87748b778c6a93ac9800986560d1621691775a5a660f6df76e3e743f9b425ffd60da7b0f54c45f186c5e6cd36d2a70d87d0586798a0c9d3b5316548c5b056a3a706b7575,
0x798d79be82b183ef8a718b418ca89774fa0b64f4652b78ba78bb7a6b4e38559a59505ba65e7b60a363db6b61666568536e19716574b07d0890849a699c256d3b6ed1733e8c4195ca51f05e4c5fa8604d60f66130614c6643664469a56cc16e5f6ec96f62714c749c76877bc17c27835287579051968d9ec3532f56de5efb5f8a6062609461f7666667036a9c6dee6fae7070736a7e6a81be833486d48aa88cc4528373725b966a6b940454ee56865b5d6548658566c9689f6d8d6dc6,
0x723b80b491759a4d4faf5019539a540e543c558955c55e3f5f8c673d716673dd900552db52f3586458ce7104718f71fb85b08a13668885a855a76684714a8431534955996bc15f595fbd63ee668971478af18f1d9ebe4f11643a70cb7566866760648b4e9df8514751f653086d3680f89ed166156b23709875d554035c797d078a166b206b3d6b46543860706d3d7fd5820850d651de559c566b56cd59ec5b095e0c619961986231665e66e6719971b971ba72a779a77a007fb28a70]

def revJisRows : List ℕ := [
0x1f005000510057000e012b004a003d000c0158003e003f0500050105020503050405050506050705080509050a050b050c050d050e050f051005110512051305140515051605170520052105220523052405250526052705280529052a052b052c052d052e052f053005310532053305340535053605370606060006010602060306040605060706080609060a060b060c060d060e060f0610061106120613061406150616061706180619061a061b061c061d061e061f06200630,
0x6310632063306340635063706380639063a063b063c063d063e063f0640064106420643064406450646064706480649064a064b064c064d064e064f06500636001d001c0021002500260027002801560157002400230152004b004c0107004d0151010a010b0109010c012c012d012e013e012f013f0119011a003c014401460046013b0129012a0120011f014801490047014701450141004101400044004501420143011d011e011b011c013c013d0700070b0701070c0702070d,
0x703070e070507100704070f0706071b071607110708071d0718071307070717071c071207090719071e0714070a071a071f07150102010101040103010601050100005d005a005c005b015d0059005800490048015501540153000000010002001600180019001a003100320033003400350036003700380039003a0108010d002b002c00200300030103020303030403050306030703080309030a030b030c030d030e030f0310031103120313031403150316031703180319031a,
0x31b031c031d031e031f0320032103220323032403250326032703280329032a032b032c032d032e032f0330033103320333033403350336033703380339033a033b033c033d033e033f0340034103420343034403450346034703480349034a034b034c034d034e034f035003510352000a000b001400150400040104020403040404050406040704080409040a040b040c040d040e040f0410041104120413041404150416041704180419041a041b041c041d041e041f04200421,
0x4220423042404250426042704280429042a042b042c042d042e042f0430043104320433043404350436043704380439043a043b043c043d043e043f0440044104420443044404450446044704480449044a044b044c044d044e044f0450045104520453045404550005001b001200130f4b22591b162a5b1d451a0f1d44111b28332c1e2f01100e124d2f021f033121143529191d462d1d29212f0322452f0415592f05133c220f1b462f062f072f08261414362616254217222a12,
0x48282f091d472f0a11141544174f2b4835052c4f255c130414142f0b2f0c2d1a2c1c20472f0e1a5525522f11101d173e173d0f452e2a2e2919120f002f122f132f142a132f1517510f462a51145b145c145d23412d1b2f162f172f181e2c1c191e2d2f1d2f1b2f1c14371902114f2f1a2f1929081a251a24211d2f1e28341f4600172f1f2f2121442d400f292f20111d15232246164e2f222603134a2f230f2a173f134b28592711143811502f462420264b2f25271b2d411e0c1a26,
0x1a56111f233022012f290f2b23421c1a19132c03212d111e2f282c1d2f242f26194d2f2734032f2f2f322f301121291a2f2a2f2e17521a2713052f332f2b2d421a572f2c2f312f342f2d15000f2c1501112034042a58284d17531e0e2d1629371617210411431c322f382f3d2f3b2f36210e2f392f3c2f3a293c2f371e0d2a522f3e2f3f1c032f4c262f28152f47294f11152f4b2f452f4e20311723263b3f262f4d243c2f42175517542f401b392f48294e222c2f4416502f412f49,
0x2f432d302f4a2e201545164f2f4f2f502f540f2d292f2f532f522f562f55234316512f571b242105234415552f5814152f592f5b2a1416451a1027562f5a19242c222f5d30022f5c19231c5c16183003152e30003001250e205b15022a2c30042d1c300530083006202d30073009300b300a29271416300d300e110e300c1b5330113010300f2f3530121c5d30132c042b383015301430173016301830190f531714161a1c1b225a15031f471756184d301b2b2724251a58301a301c,
0x243d1254301d255d2013301f3020270b17572e1a30211505291b2115155024141652302230232541103e3026195c302519253027454d30282a203029302a302b1d481b2b1306302e302c2b1c302d2839302f30303031243e3035303330343032194230362b492d4330371f0730381c393039225b2d1e243f3124303a53041524303b2a3d1c47215b303d2543303e303f120d30401506252b10591c2f2700304124401e2e3042290b1f391301130830433045161930442d521c48271c,
0x292b30462c5730473048245d30491f08195d1653304a1a28184e2345304c2106194e304d304e200f304b30502a151843304f1654193d264c30533051285a1d49305a124330543052202e305630551223163f305b2d0c3057305c305930582d2e175811222d531c5424371844310131022d442e0a310417593103120e31052a35231b2c05293831064f34250f310713092b121d0031082946310c1f093109152f310a130a160d310d310e310f31101b3a175a2b3d2b47255629503111,
0x31123114311631153117111c2a2b195b311820381d0115083119273a311a311b311c311d280315470f44251e311e1c1c1f483120311f1d0217403122271d3123273b2113214d1507254d2210264d2a2d31251f49161431263127100b0f54134c210714302c50312a111631291509312b2b50312c2d31175b1715312d312f312e1e3e1018103d3130313117163132144d1a1131332a53191414392c06202f271e1b5c1c261b471b541c55271f313610222030175c17241546313a2200,
0x215d150a1d03313b3139112321451b171a2a1005124f18451a29313c313d1428122518461427233e100425102b1d18002c582426175d160e314615422a29273c3145133d3140314131433144143a1e40290c3142313e1742313f2e03295123471741184f3147253c314b1b5d1b55314e314c2b0231493152314d315017252b1e315131533155194f2e21314a31483154314f315732023159315d3200315a321d19481210315832040f5532030f0428293201315b3156315c19273205,
0xf56320e320632071d042a48320c320b240e320d320a101319151e0f3208244132090f0132132c021d0632193218320f21223210214e32151d0532122b43161b321632173214321a3211322032253221321c3226201032281801321e225c3222321b130c134d12443223321f16553229322720321429150b322415531023322d322b33063230322a322e322c1a2b322f323232373235323422111124323132331d0710123236113d32411d5b323d323b323c323e101c201832383239,
0x12593240134e3243323f3242290d2534271732453244122432463249324832472618324a324b324d324c324f32523250324e32513253325432553256325730241b5b1a2c11520f572223325819030f2e1e3d325917261850325b325a293f325c3300325d330133021656103f3303330533043307243933080f14193e161c222e3309330a330c330d194315302a16330b330e19201802331219042212330f233933131e4133113314161e331533161803121f33183319331a33173310,
0x331b331c2a431d4a331e331f331d332126170f47283533221d5c1b18263c134f194a2a3825111657212e3320332321233324332533272348130d5300104029521d4b24271945332d291c2d3c115333292019332c2442242824432718232c1928332810552415332a33261e2f332e1c2d150c332f2947205c232533312a2e33323337290e3336333033333335190529283338222411541d4c333a33391847333b333d333c333f333433413340333e1a2d1e30203333421f1b0f4c2643,
0x233a334433433345334633473348293033491125334a2c1b120f31281c27211e334b2b4a2b13334d21462416211f2836334e334f105a1b1933500f2f3351335210411350253f2953335620343355161f2a3a3354244433583357335a3359105b335b1d08335d2204335c29121c56243a3400180434012600273d2b302604340a14172c242b0e350b3402340521242a17242934062a4419291d0934071a2f1a2e0f1817271f0a0f30340b340c34091017130e34082b2428100f070f58,
0x1a300f310f023411340f2b1b34123410340e1e10340d29391743341634171d0a34132e0b262b3415190634182837341934142b1a263d341a2811341b341f341c1126341e1b1a341d1658342b3424342122433420342234233425342613513428342734291d4d342c233b1024342a342d342e3431342f34301a313432180534331a592117343434351a3918062b31140717283436123734372118343835023439343a343b343d343e343f214f10061b480f212036130f1b1418072445,
0x1c001310224723490f17141829541b2114311f4a1b1b2c073440143b192a121110421d0b112734412c251c281b433442135225312b08344334442838344613071556344513111e11344a1a00112834493447344b3448260a3b2c1e12344c2d1f344d344f225d344e1f021a5a212f1b5628541f4b1b2c34501d0c345134520f3221191e31345325121d0d1d0e34541f4c1d0f345534562b3f345715251c01345834591b3b1e0b25531e33275726011528345a144e345b155d252e110f,
0x1a32345c35013500155c345d2417210f242a1b2720372c593503350425351a1235063507350813533509350a110b201a1343350c2b0721311238350e3510133e350d350f3512351135133514251c150d11443515351a351829562955244635171c3335161e51351b194935213522351c1212351d3526352535243520351f35232957352a352735292c513528351e1e52352b1916352c352d3530352f352e244735193536353235313533353435372d45353835353539133f353a353c,
0x353b353d353e1f4d1c021c432042180819171809144f353f1918172935402b0526223541180a130b220615311a33283a27203542135435452300354435433546234a1e421a341f29213214012301354735481d4e2a18354b354a3549285c35522a39354c354e2a4a354d354f27073550291d35511312291e260e35533554180b1313355517172c232c08135535572302180c1d10273e1d111c57234b29582418180d283b355824381921172a234c0f221c4d180e2c263559355a2630,
0x355b2d562e0c355d355c12263600360336043602281f1d12360636053601360736083609360c360a360b360d1043234d360e165911552615360f255a293a36102e0d3611291f36142f002f101b0f25543615143c23030f5936162905180f222f234e2b4e1718172b36173618361e1b442304150e3619280a2225361a361b150f361c361d361f245536203621362236133612362316202806192b28162305282a36241d131025362536262b51273f3629105c1f0b3628362716212133,
0x362d362b362a2d0617441c58362c242b1c1d251f3630362f362e363117453632285b1c3a3633275825202306240f3634140a1e13280b1356260536351a352a192a1a105d363a224836371156370c3639260f363836361859363c364236483640243b3645283c363f36442d461a362134363d143d36471f0c1044364111573646151036433649364b365536533650364f2d573651151118101c593658364a364e363e115936523654223019071117364c365736561512210812451622,
0x364d3659365c37001b1c3706234f365a3704115837023703365d370117462c0913141038370526190f0c2740363b370b370f2b4437082448370d1d4f370e25362e26370a3710185a1f2a0f33370937072039365b1a132125371c203a3717371437151b453718371b37161c04371937132b5b2b5a371d371e0f34371215510f051315371a372237213726372737253728372037243729372a371f1a5b37232135181137111e1437372948372d372e372f373637352a5c131637331624,
0x121337302d1737320f353734372b373137381623372c2c3c2c0a373b373f205d2d583740373d373a3739373e290f251316253741373c3742165a1110374a1317374837491908374737453744374b3743374d115a374f374e2307375237503746165b375137553754375637533757375837592949375b375a1c1e1f0d1145115b375c0f1e1f2b375d4b223800164038011f4e3802380314193804380538062136172c2b402a1b1c4938071f4f4d1c27411b49192c3808212629062150,
0x380b3809380c380a380d29100f16283d2742380e38111d14141a380f38161d15381026232c3d3812381338172449381418121f3d3825271321512743390c295923502a54381a1100224938232213381d3824381f382638223821264e381b115c3819145021523815381818131f3a1d16382026311451122712461e003828382d3829165c382e1a0118481c05381c1a5c382b1a37382c0f233827230814521513382a0f0619221e15235127333830203d21091a0a38313833382f2940,
0x231c203b295a1b2d383f383e1e57165d38381d18254726103836203c1b57383b1d173835383a263238341600123c383c2d0a192d221438391f3b18141e431045201b383714241626232e383d203e3840384221163848384338452820235238462c0b2c2713180f0d384438411357104638472c28384b211a3852384c384938503832384d38512721244a384a384e162719501f3c3856240538532a3f385438552b2d1f011641385c1a1438593858261125142410385a385b284e2624,
0x1a021f502a2f12283904385d2c29390639023903203f3901381e39053900390a390b2406390d1a033908141b390e3907391239113910391339151d503914391839163917384f391a39193857391b390f1a38391c391d391f391e3920115d1815295b1f0e172d392239252831143e392439232633392615143928392713191a15253716281e5339291f0f2407283e392a392b392c2917343c1f25282b193727442722242c2d20392e1b2f392f0f1515331f2c283f39301a2122261a3a,
0x1e163931295c10561a3b3934393239352d1839331f5a393621113937135939393938393a393b135a255b2215144b1a3c20401c3b0f0f393c110139401816393f190a1d19393e1d1a2b1f19090f361f2d39451f1010261c342a4519511d1b1f06394439423943224a3a0539491a5d1817394739481e1739461a0e394b394a394f3950394c1201394d394e27342840162939511f111d1c2231152639523956112a3953395539541c4a22270f243957395823092d501a22294a2a1c3a01,
0x395a395d395c39593a00253d395b3a021c4b3a032c2a26573a043a063a073a081529102718183a093a0a1c5020413137201d201c213719262f51164d2c0c295d285d3a0b1952231e3a0c2e0e2a1d230a3a0d135b3a0e3a0f2b392b032a552a3b1a043a111b4a2a303a133a163a151358143f3a123a143a171e582c5a0f28193f211b1b3c1d523a1a242d3a18210a3a191d512b3c3a1b3a1c2c473a21181926343a1e244b393d3941142e26263a201d1d27233a2627593a1d3a233a22,
0x1f2e2a4c2d322a46112b1a3d2e273a251e543a243a1f172e3a2b3a29112c3a273a2d3a33212729203a3528013a34264f2a1e131a1f561c1f23322c0d3a303a2f3a313a2e3a363a2c3a2a3a323a28224b2b571b25195319192a4e1220232d252910281f511f1316093a38181a125b3a3a12533a403a3d1f52122a190b1229192e3a3b1644162a244c3a390f253a3c3a3e152c160b131b142a3a4119582a501a163a42280f3a4e11123a433a543a442d213a4b263e3a533a460f133a48,
0x181b3a4a3a493a453a501d1e334c17472c5b3a4723531202190c3a3f3a4f12403a4d3a51244d135d3b112b283a56135c3a5d2a1f3b003b023b063a582209244e3b0a3a5b3b073b011e183b0b1f123b09131c2e2f3a553b050f373a572b193a5c1e0123263a523b041e593b0e125017003b103a593b0f3b083a5a3b0c3b0d3b1e252d3b033b1a3b1c23372c2b28553b1721293b1d201e3b143b213b20254e3b1f25493b233b1615273b191c3c263f3b1b152a3b133b153b122e0f1239,
0x3b183b2212141946103c3b332e103b361e193b353b343b313b253b423b243b373b2f3b2a3b273b283b3053013b2d181c232720433b2b3b263b292c2c2a493b2e3b383b403b393b463b443b3f3b3e232f20443b3c3b3a3b413b4727543b4d3b483b4b3b45225328173b3b3b431d1f2b2e3b573b4a17011102123e3b321d203b4f3b561b581251220d3b4c3b513b551515142b3b531400252a3b523b543b4e3b50123f22283b5b3b5917483b583c003a373b5a3b5c3b5d3c0b3c073a4c,
0x3c063c053c023b493c043c033c092e053c0c155a3c083c0a27063c0d3c113c0e2c523c0f3b3d3c123c1310143c1516461b00153411032c3e3c173c163c19141c1535131d3c1c3c1b3c1d112d22163c1e131e3c203c1f3c213c223c231a3e1f141900284f29412e231a54192f2d513c243c251a3f3c263c273c293c282a371c3d1b4b1a233c2a3c2c1e023c2b3c2d3c2e3c2f3c303c313c333c323c34110422293c351a05122b3c362421332b14023c373c38294b2a4725263c392745,
0x275a2b323c3a3c3c3c3b3c3e3c3d3c401a402b103c413c4214033c433c453c441e4428181029272423541c20144027251b0d3c47131f105725513c46181d22323c483c503c49212014413c51164714043c4f3c4d3c4a2c3f231f25383c4b3c533c521602110c191a3c4c3c4e2a3621532a563c5b3c5c112e29072b5c3d001b021d213c573c5d104715163c543c591f53265027463c562a003c583d033d013c5a2a01262714422404224c3d043d0221383c55102a2c2d3d0f3d0e1f55,
0x3d0b2c4b25153d052324102b181e3d081c063d0d3d0c3d073d0a12473d0926282d0d1d531f543d153d13282c3d103d121019181f2e11121c28412c4012031e1a3d143d191d222c0f3d163d113d172d3d24522521121510343d1d3d202d222c433d273d213d1e2d333d241c293d263d2b24503d293d2322173d2a3d1f3d253d2c0f5b3d223d2d1e1b1c3e2904190d3d1a3d2824191f15124819301d233d1c1c21162b3d1b3d311c4c17193d403d3a1453242e3d353d3e0f0e10111118,
0x3d37210b3d2e3d3018203d413d3c3d343d3b2b0a3d393d3d172f1d2422183d332c0e3d363d2f24513d323d382e301b1d2a5d3d42270d3d4e171a1c3f3d442d0e18213d510f4d3d4f3d433d493d4b2c2e3d46240d3d483d503d4a2b263d451b013d5d12493d473d4c3d4d214b21393d553d5b3d5924083e023d563d573d3f145828191b1e18562e123d533e0110482045265813202d592b0023313d5a3d5c20113e003d583d52132216483e0e3e091f5712421c403e123e0b230b3e08,
0x23383e2b3e053e043e0d3e073e063e0c1f003e033e0f3e1013213e153e143e163e1924223e133e17164221583e11261a3e183e1d3e1b3e1e3e213e1a184926073d182c533e1c3e2021543e1f3e0a4e483e243e283e263e223e233e273e25282d3e2d3e2a3e293e2c25333e2e2254214c1f043e2f3e313e303d543e3225463e33112f2453120414431b3d19312e061e4510493e353e343e3822193e3b3e363e3a3e39241f0f382d543e3d10073e3f3e3e3e3c3e372a023e413e40104a,
0x3e4329113e422b141d2620121d252d5a3e491f583e453e4a104b3e4826403e443e471d2727303e4b1b301f593e4e3e4616063e4c2c2f3e4f53051c2e3e503e51260d3e533e54261224543e563e582d343e553e57104c3e52323a3e5920461a173e5b3e5a1e0331383e5c3f003e4d3e5d3f0126593f023f033f043f05233d3f073f063f083f091b3e28422b4b3f0a3f0b20351b033f0c3f0d3f0e293127263f0f2636230c3f101146144c2b252b1511132e132a3129091f163f112522,
0x17023f1219333f143f133f153f163f17141d3f183f19170327273f1b1d543f1a15173f1c3f1e3f1d3f1f17303f201548201f185c3f223f233f211b4c252715183f25220b3f242e1426413f283f2a3f272b333f293f2b2d233f2f3f2e2255260c17043f2d3f2c2c102c113f30104d18551a413f313f323f341c223f363f353f37122c3f393f383f3b3f3a171b2d07152b1105154913402d473f3d3f3f3f4011303f3c1a1823203f3e3f431b4d3f41161d27283f423f5d3f48171c1444,
0x3f452c5c2d0f21553f473f492d351536275b26293f4a3f4c3f4f3f4b3f4e1749102c3f501e4f3f4d2d3b3f5353033f513f543f463f52191b3f553f562c5d3f573f583f443f5913231b043f5a3f5b3f5c101a4000281a40011303400240034004400640074005283240094008400b400a400c400d400f400e18584011401013241e32241b40121f171a19105840132c302942401424232c1218221e1c222a3113230d114740154016401b401940183921120540170f39270927292d10,
0x401c401a223b1f05270a280c401e2d0b162c401f401d2735402040210f3a1d5540264023254c4022140540294024402540284027280420212020141e402a402b402c402e402d1035403627474030403240341e1d403540331b1f402f403128211d284038403740391b05190e2456403a232a403c2d00403b204840414043404422334042403f403d403e40404047404540464048404a404b404c404d4049404f404e40502d2440534051405213412b5d29294055405440564057405b,
0x40584059405a405c405d410041014102270e242f410326512813410441052409120618234106410741081a08410a4109410b410c2748410d410e5248410f411041111a0d411226352a3e102d1036411341154114244f1f183c1841162b2041171325273641184119411a2b3b2b34231d2049411c1c411d29411f411e411d275c13261708412541221e1e2b11412141234124412041264127230e1342224441284129412c1e462523412d2a32412a412b4130412f412e413241314133,
0x41354134292c1c352d254136251641374138413c413a413b4139413d413e413f41402b1641412b4f4142222d2649154a221a414315191f2f4144191c4145414617051934414824351935142d2a03262a2436183b414a1d2a2d11182417062702414c414e174a414d235541501216414b2749100f194b2e31414f4151292a1f38415341544152122d415a41591b06415b4156415c4157273741554158420142002a40415d0f4a420342021d2b42042022420642054207414741494209,
0x42081b072d481b31420a1616141f14061a422c134210420f2023420c420e1c2a1e1f420d420b26091d2c281b1936245742114212422815372e1c201442131131235629004214145942154217421826084219421a421b1538113225241c071a43421c1c0811292822421d274a20244220422126481e20421e2240421f1d2d0f3b14084222235742231f262b0c28024224422522342d26422742261b4e42290f4f422c422a1133162d422b182518512945422d2a33422f1f30102e1119,
0xf0b422e423042311d564232122e4234164914454235155442361f5b252c1f3f195442372241204a4239423b4238423a1601423c160514462c31423e423f100d42421255424142404244423d42452d0842464247335342494248424a424b2d14424c4f4e1d2e424d424e1c362517424f22074250221b42511504301e223c1b12132742524301425514474254430342531d2f42574258240a4259123d1e392843425b21474256425a425c195a4305280d270524581539430443022714,
0x425d223d245a24591955431743074309430c430d430a430b430843064300292e1134431443114316431526522b061a1a430f431843134312430e43101328221c1f5c2701431d27031f40431a272e431e2932223a4319431b431c431f1b2325254324432343202e154329432d432a43264327432c4321313443284322432b43311329432e432f433043334332275543342d5b294c4339433643351f314338433a4337433e433b433c4325433d433f4340292543412b41152d16084342,
0x29131e472b0f43432d122653202526131c2c0f1f43484346434413001d30434943474345434d434c434b434a434e434f1f19435043524351173120174354245b435343552914204b182643562d2743584359435a435b1a44435c162e1449140944002b521827435d44032b45261b28121c4244021b3218281a4514482915440120262a2119561a46233c44062d3e193844071e2144091d31190f44081c09171d20274404440a4405162f440d4411164a440c441518292c4c0f1b4412,
0x144a440f4410245c440e440b12071f4317074417441444164413163021124418204d44254421441b441f1b590f3c441a44224426182a2b352335441c44244419221d441e0f1c2b29441d153a274b204c2d2f1c4e444d44271f5d44234428442a2358442d44292933132a2b2a0f3d442c2d5c442b104e254b442e4435442f44364432265a1b2944344431443744301c232a041c2b4433443f443b443e443c4440443a44201f32272a443d4438200016311c0a1e042015444344454446,
0x4442444444394441444944482a59160a4447444b444a444e44501a1b444c4451445244534459241a44554454445644574458445a445b132b445c445d4500450145024503450445054507450645084509450a450d450b450c19401632223527121c4f262c274c450e374c450f45112c444510451345122c324514275d45154518451745164519161120011420451d451a451b451e451f451c100811064521452245232c411c0b452545241e484526452745281344132c4529452a2a3c,
0x2c422c332e16182c452d1b33452c452e1b082130452f182b2b36453045314532453345341b092b4c4536221e45354538453745391f1a453a453b2918453c204e453d453e2d5d45414540453f230f45421e05454345442e174545454645484547270425582e1d2708454a1d322809454b4549132d17331a47274d17092a22454e454c182d182e0f48194726380f3e4553221f2637213a455545514554454f45522a0517340f5c4550455745582518151a4605261c1a48151b1f272e25,
0x2b0d45561f3314324559455b455a455c2205261d231046024601455d1e34284446044603182f2e324614460846091b4f460718574606460a231129012002213b460e460f460b460c460d18304615461128452a4b28074610461346122a234616461720164618461a461e461b4619261e461c461d11114624461f462046212100462346224625462646271e22114846282d361b0a1c0c1a4922364629462a1010462b462c462d462e462f151c390946301f4446311b2a46322f0f4633,
0x293d133b20031c3728501c0d463418314635272b4643463721282654171e4636200446382359463a4639463c463b463d463f463e132e46404641464219102d2846441e06104f4645464646470f514648464928461b26464b12080f11464a464d262d1e2311352a06163c153b464c11491302105046512d49213c2823465d1136465b46594650464e464f1b42154b225625301030465346524658465446572b2f46561137125c465a465c16334702470b470c0f0a47130f50470a4709,
0x47044703470147002242215a470647054708204f163410204707183220504719471a1138110d4717470d4715471c4716471446554712470e132f4710471b4711471d470f265b2c484718472e47261e5a1425153c4721113a1d334724193924304729294d4720113917352808472a471e47274731472247232519472847252a07472b0f3f471f472d472c264a4733473e125d4741472f47342c4d473d2c342d092257124a2851474325000f10473c473820514732473a473f260b0f09,
0x473747402857473b47361d341c0e1b0b2b3728264746474f473912561d574744474920524745474c223e474d2c35474212174748474b2b0b474e4747474a2a082e004752475947511b224730292d2b014758475747534754101547564750233447550f5d21012922475a48002738475d1d351b284802151d48032858475c4735475b2e2e25012852480a4810481148042655480e4806480848124807480b10512544480c480f4805200548091a061e24160f2b532b581c5148164814,
0x2e2d48132c54481548174818481b48192502481a272c480d1c52481c482120534820480148222028481d481f481e3c103c01482448232c55411b482548264827173614334829303c14542d191552482a482b224d482c25590f19114248314832482d1a1c482e2621482f4830483a483448374833483548361b374838222016351221483b121e4840483c483f2719483d483e282727394841215c484b4847114a48452a094846484348444849484c484a48484842223748532b094851,
0x4852484d484f4850484e1f452e184857485849001e09485a485d485548544901113b485b4902485c485923124856264749062c1a49054904490d4907490f2c4549124909490a490e491149104908490b491c4915491349144919491a12091421491849034917491b4916491d491f491e49214920483949254922492349244926164b492849271c0f18333d0649291c301218492a10311d36492b1834492c0f40281c492d1e4949344931224e4932492f153d492e49351615213d493b,
0x49372114493649394930493a493c274e4938493d493f173249330f20493e193a2d554940494120542d0149422c144943494429434945191f2d02494a494b1d3749492c46494649481f1c1e5d4947494c2902494e494d124b2a0a494f495b4951495249534954495849594957495549504956495a4f161107495d153e495c4a014a004a034a024a041c104a054a064a071f1d2c364a08290326254a094a0a170a140b4a0b1a4a26204a0c122f4a0d4a0f2c564a0e1e254a104a114a12,
0x13304a134a144a154a1612304a174a184a1911511e074a1a4a1b4a1c171f235a4a1d16361e354a2025034a1f16104a1e2156140c4a214a221d38164c4a232a0b1f3e14552b5420294a241e26224f1d394a254a284a29191d21214a271d3a281d4a261a4b10324a2d16371a4d1a4c2e2c4a2c4a2b2006142c2e2212191d3b4a2a4a2f4a304a2e17372c1f1a4e26064a331f1f22212c154a36174b1f1e4a324a37174c4a344a354a311f412528220e113c274f142223134a3a4a38222b,
0x1f2013314a391e3a2d292e1f4a3b4a4623144a454a424a4a4a434a3f235b4a3e4a3c2c001a4f4a404a3d4a441c53172021592a2410390f4125044a484a4725454a4c4a414a4b4a4d170b4a4918351b344a4e2c374a514a544a5228144a4f153f4a534a554a594a564a584a574a5a1b104a5c4a5b28474b0016384a5d4b014b02142345201d584b03174d4b044b051a1d392d4b064b071c114b084b094b0a4b0b4b0c220a4b0d4b0f4b0e25054b102a0c4b114b124b134b1425391d3c,
0x4b15184a2f0d4b164b17281e4b184b204b194b1b4b1a4b1c2a254b1d4b1e4b1f4b21120c2346284819411836282e113e272d4b2413321f344b234b2822582b424b264b27140d4b292642213e2750241c4b252a26114b4b2b2e0723212e241a504b2a21104b3b20072557282f4b2e1a1e1a511d3d2644170c4b2d4b2c28491b2024314b304b3118374b2f4b324b334b3521024b3413454b374b364b384b3a4b3c4b3d1f351b2e4b3e12314b3f20554b404b41284a140e4b422315103a,
0x4b431b501e55210c4b464b454b444b4c4b4a4b474b494b484b4b14564b4f1f364b5017384b4d4b4e2e08231620084b514b544b524b532c3825064b574b554b564b584c084b5b4b5c4b5a4b59235c4c004c044c014b5d4c024c034c0a4c051f374c074c094c064c0c1c124c0b4c0d4c0e4c114c104c0f4c134c122b554c154c144c164c174c194c181e274c1a154c4c1b4c1d4c1e4c1f4c1c4c201b354c21140f1612170d4c22254f241d4c234c261b134c254c2416394c2712324c29,
0x193b4c284c314c2b4c2d29444c2a4c2c4c304c2e14104c2f4c3226392d371c134c332c014c354c344c382c204c37124c4c364c3b4c3a4c3924114c3c4c3d4c3e184b16044c3f4c404c411e284c421b0c4c434c443100305d4c45444f4c4622031e0a261f4c4729342333185d220810092a571e36163d154029354c484c4a4c49113f25554c4b265624124c4c1c314c4e2b214c5d4c504c512328213f205625074c4f14344c584c554d042508223f4c52235d24324c534c571e3f2646,
0x232b1f214c56210d21034c540f082e014c5921401c141e294c5b4c5a0f4e4c5c280e4d06253a1e4a223815574d052c16101e293611404d004d014d024d03251a22020f424d074d085302211c4d091052202b170e2c394d0a240b20571b364d0b4d0e1c444d0c200a20090f432d2a4d1027514d124d114d0f424313334c4d4d144d134d152c1725402a0d4d161b384d174d184d1924000f4918382e194d1d16134d1a4d1b285312332c18151e24334d1e4d1f4d2024014d224d212532,
0x4d231c151b3f263a22501b511e4b4d244d251e3c4d264d274d282c4e1c164d2a4d29183918521a1f4d2d1c454d2c4d2b2148174e1f22270f1c184d2e1d3e4d314d2f4d304d334d321d594d344d354d36272f19321b404d374d382d031c242b4d2d2b4d3915414d3a24024d3d12571e2a4d3b4d3c233f2a34155b4d3f4d404d3e4d42253e12224d464d434d454d414e2e4d442d4a17394d4e24134d494d4c4d4a4d4f4d504d484d5510534d47270c4d4b1d3f183a2a2715431c25251b,
0x200c4d534d4d4d522b2223174d544d51200b4d584d574d562a0e1c5a4d59293e10332825225114574d5b183c1a0b4d5a1e4c1e4d4e004e021d5a4e014e03153228241b412e024d5d19572e1e4e054e044e064d5c2548243423364e0b22224e074e08160c4e0a170f4e091d4012584e0f191e20582329121a4e0d4e0e23224e0c4e104e164e194e18240c4e114e124e154e17151f4e1a4e144e134e1e4e1f4e204e1d4e1c1d4125094e1b4e244e224e234e2121574e254e264e281334,
0x4e272b594e334e294e2c4e2a4e2b4e2d4e2f4e304e314e344e324e354e374e3623182b464e38200d4e3929234e3a120a101b133613354e3b4e3c4e3d4e3e4e3f13371234183d27154e414e404e42103b4e454e444e434e464e490f264e474e4b4e4a4e4d4e4c4e4e250d4e4f4e504e524e51284b4e534e5419444e554e562a28202a0f03212a4e57284c4e5a4e58183e4e59172129244e5c4f004e5d4f0110001e371c5b13384f0226454f0410014f0323232d2c250a4e5b2d051710,
0x2c3a15582d131607214146004f05120b1e4e12354f074f084f061643193c1d4210022d384f0a4d0d4f094f0d4f0b4f0c4f0e4f0f2d4b4f104f111f28271a1e5c13462c19114c1c17173a4f144f131a524f154f121a074f19490c31351e564f172d042550100a1f421b152916101f2d4c2c4a4f1a24241b5a4f1b4f1c1e2b4f1d2d4d4f184f1f4f214f204f1e4f224f23205911414f242b174f254f262e093a104f274f284f294f2d4f2a4f2b4f2c4f2e1f232b561f244f2f27524f30,
0x52322b2b4f314f324f3312364f351e384f3616034f374f3b4f394f3a12524f384f3c4f3d0f274f3e4f3f1d434f4014264f434f424f414a50293b4f444f454f464f474f484f4913394f4a4f4b26024f4d111a4f504f4f10031520292623191901183f1c461e3b4f524f512c2113472731253b1e5b2d2d163a4f554f542a2a250b102f4f564f5328302c494f574f584f5a2149123a123b4f59134817111349241e2d3f173b4f5b4f5c4f5d500050025001285650035004500550065008,
0x500750092753452b1e081411500a500b310b3c1a27320f5a0f1a1a532a0f1d5d500c2b3e500d2c3b10211a20500e114d500f501050125013501550115014133a5016501750185019501a501c501b501e5021501d501f5020502215211b525023502418405025121d262e502650272239254a5028265c212b1037154d154e2252502d154f114e502c502a502b50295037502e502f50305031503350321c385034503614125035205a17125038212c5039250c503a503f503d503c503e,
0x503b5041504050431522504250445045504750465048504a5049185b504b504c121b504d504e1e50504f505050515052184150535054505550565057271050592805505a5058505c505b505d5100510151025103510451055106510751085109510a510b510c510d3c14510e43571413120019115110510f2b0451125113511151142a415115145a2e04511651180f1d5119290a5117511a511b511c511d511e2a4d1a0c1959200e511f51225120512317505121512451255126512a,
0x1a092143512b512851275129163e512f512e512d0f1251395135513651325138513412412e2b5137513351315130513b513e513d513c2828513a0f52513f5141124e512c1016514351425140220c2a4f2d3951445145514651475148231a51492716514e514a514b2a102b23252f514f5150251d514d514c1109515851571054515551545152125a51511b1111081842515b515a51595156515c515d520452035205100c5200520118532b1852022a11520a5206520b52085207163b,
0x520c520d520e52095153520f23405213521452125211521752105215521652195218521b521c521d2e28521a214a194c521e521f5220522152221713522352241b0e5225522652275228522b52292e1b522a2d4e522c2d3a522d265d522e52305231522f184c2b2c2a4235563c3f2a5a110a5233142f523452355236185452373f332b3a21425238523a5239523b523c523d523e523f524052415242524352445245524652472403173c5249202c524a524b2800524c524d42164b39,
0x4f4c524e524f5251525252532d4f525052545255525752565259525a52582d15525b525c4233525d00090053004f005200540029002a0055003b00030004001e020f02100211021202130214021502160217021800060007004200400043000800560220022102220223022402250226022702280229022a022b022c022d022e022f0230023102320233023402350236023702380239002d002e000f0011000d0240024102420243024402450246024702480249024a024b024c024d,
0x24e024f0250025102520253025402550256025702580259002f002200300010004e00000000000000000000000000000000000000000000000000000000000000000000000000000000000000000000000000000000000000000000000000000000000000000000000000000000000000000000000000000000000000000000000000000000000000000000000000000000000000000000000000000000000000000000000000000000000000000000000000000000000000000000]

end Iconv
