import ClusterHarness.Asn1.Value
import ClusterHarness.Crypto.EllipticCurve

/-!
The elliptic curves that have names: their fields, coefficients, base points and orders, as the standards
that name them give them.
-/

namespace ClusterHarness

structure NamedCurve where
  id : Asn1.ObjectId
  curve : EllipticCurve
  deriving DecidableEq, Repr

namespace NamedCurve

def secp112r1 : NamedCurve :=
  ⟨[1, 3, 132, 0, 6],
    ⟨.prime 0xDB7C2ABF62E35E668076BEAD208B,
      0xDB7C2ABF62E35E668076BEAD2088,
      0x659EF8BA043916EEDE8911702B22,
      (0x9487239995A5EE76B55F9C2F098,
        0xA89CE5AF8724C0A23E0E0FF77500),
      0xDB7C2ABF62E35E7628DFAC6561C5⟩⟩

def secp112r2 : NamedCurve :=
  ⟨[1, 3, 132, 0, 7],
    ⟨.prime 0xDB7C2ABF62E35E668076BEAD208B,
      0x6127C24C05F38A0AAAF65C0EF02C,
      0x51DEF1815DB5ED74FCC34C85D709,
      (0x4BA30AB5E892B4E1649DD0928643,
        0xADCD46F5882E3747DEF36E956E97),
      0x36DF0AAFD8B8D7597CA10520D04B⟩⟩

def secp128r1 : NamedCurve :=
  ⟨[1, 3, 132, 0, 28],
    ⟨.prime 0xFFFFFFFDFFFFFFFFFFFFFFFFFFFFFFFF,
      0xFFFFFFFDFFFFFFFFFFFFFFFFFFFFFFFC,
      0xE87579C11079F43DD824993C2CEE5ED3,
      (0x161FF7528B899B2D0C28607CA52C5B86,
        0xCF5AC8395BAFEB13C02DA292DDED7A83),
      0xFFFFFFFE0000000075A30D1B9038A115⟩⟩

def secp128r2 : NamedCurve :=
  ⟨[1, 3, 132, 0, 29],
    ⟨.prime 0xFFFFFFFDFFFFFFFFFFFFFFFFFFFFFFFF,
      0xD6031998D1B3BBFEBF59CC9BBFF9AEE1,
      0x5EEEFCA380D02919DC2C6558BB6D8A5D,
      (0x7B6AA5D85E572983E6FB32A7CDEBC140,
        0x27B6916A894D3AEE7106FE805FC34B44),
      0x3FFFFFFF7FFFFFFFBE0024720613B5A3⟩⟩

def secp160k1 : NamedCurve :=
  ⟨[1, 3, 132, 0, 9],
    ⟨.prime 0xFFFFFFFFFFFFFFFFFFFFFFFFFFFFFFFEFFFFAC73,
      0x0,
      0x7,
      (0x3B4C382CE37AA192A4019E763036F4F5DD4D7EBB,
        0x938CF935318FDCED6BC28286531733C3F03C4FEE),
      0x100000000000000000001B8FA16DFAB9ACA16B6B3⟩⟩

def secp160r1 : NamedCurve :=
  ⟨[1, 3, 132, 0, 8],
    ⟨.prime 0xFFFFFFFFFFFFFFFFFFFFFFFFFFFFFFFF7FFFFFFF,
      0xFFFFFFFFFFFFFFFFFFFFFFFFFFFFFFFF7FFFFFFC,
      0x1C97BEFC54BD7A8B65ACF89F81D4D4ADC565FA45,
      (0x4A96B5688EF573284664698968C38BB913CBFC82,
        0x23A628553168947D59DCC912042351377AC5FB32),
      0x100000000000000000001F4C8F927AED3CA752257⟩⟩

def secp160r2 : NamedCurve :=
  ⟨[1, 3, 132, 0, 30],
    ⟨.prime 0xFFFFFFFFFFFFFFFFFFFFFFFFFFFFFFFEFFFFAC73,
      0xFFFFFFFFFFFFFFFFFFFFFFFFFFFFFFFEFFFFAC70,
      0xB4E134D3FB59EB8BAB57274904664D5AF50388BA,
      (0x52DCB034293A117E1F4FF11B30F7199D3144CE6D,
        0xFEAFFEF2E331F296E071FA0DF9982CFEA7D43F2E),
      0x100000000000000000000351EE786A818F3A1A16B⟩⟩

def secp192k1 : NamedCurve :=
  ⟨[1, 3, 132, 0, 31],
    ⟨.prime 0xFFFFFFFFFFFFFFFFFFFFFFFFFFFFFFFFFFFFFFFEFFFFEE37,
      0x0,
      0x3,
      (0xDB4FF10EC057E9AE26B07D0280B7F4341DA5D1B1EAE06C7D,
        0x9B2F2F6D9C5628A7844163D015BE86344082AA88D95E2F9D),
      0xFFFFFFFFFFFFFFFFFFFFFFFE26F2FC170F69466A74DEFD8D⟩⟩

def secp224k1 : NamedCurve :=
  ⟨[1, 3, 132, 0, 32],
    ⟨.prime 0xFFFFFFFFFFFFFFFFFFFFFFFFFFFFFFFFFFFFFFFFFFFFFFFEFFFFE56D,
      0x0,
      0x5,
      (0xA1455B334DF099DF30FC28A169A467E9E47075A90F7E650EB6B7A45C,
        0x7E089FED7FBA344282CAFBD6F7E319F7C0B0BD59E2CA4BDB556D61A5),
      0x10000000000000000000000000001DCE8D2EC6184CAF0A971769FB1F7⟩⟩

def secp224r1 : NamedCurve :=
  ⟨[1, 3, 132, 0, 33],
    ⟨.prime 0xFFFFFFFFFFFFFFFFFFFFFFFFFFFFFFFF000000000000000000000001,
      0xFFFFFFFFFFFFFFFFFFFFFFFFFFFFFFFEFFFFFFFFFFFFFFFFFFFFFFFE,
      0xB4050A850C04B3ABF54132565044B0B7D7BFD8BA270B39432355FFB4,
      (0xB70E0CBD6BB4BF7F321390B94A03C1D356C21122343280D6115C1D21,
        0xBD376388B5F723FB4C22DFE6CD4375A05A07476444D5819985007E34),
      0xFFFFFFFFFFFFFFFFFFFFFFFFFFFF16A2E0B8F03E13DD29455C5C2A3D⟩⟩

def secp256k1 : NamedCurve :=
  ⟨[1, 3, 132, 0, 10],
    ⟨.prime 0xFFFFFFFFFFFFFFFFFFFFFFFFFFFFFFFFFFFFFFFFFFFFFFFFFFFFFFFEFFFFFC2F,
      0x0,
      0x7,
      (0x79BE667EF9DCBBAC55A06295CE870B07029BFCDB2DCE28D959F2815B16F81798,
        0x483ADA7726A3C4655DA4FBFC0E1108A8FD17B448A68554199C47D08FFB10D4B8),
      0xFFFFFFFFFFFFFFFFFFFFFFFFFFFFFFFEBAAEDCE6AF48A03BBFD25E8CD0364141⟩⟩

def secp384r1 : NamedCurve :=
  ⟨[1, 3, 132, 0, 34],
    ⟨.prime 0xFFFFFFFFFFFFFFFFFFFFFFFFFFFFFFFFFFFFFFFFFFFFFFFFFFFFFFFFFFFFFFFEFFFFFFFF0000000000000000FFFFFFFF,
      0xFFFFFFFFFFFFFFFFFFFFFFFFFFFFFFFFFFFFFFFFFFFFFFFFFFFFFFFFFFFFFFFEFFFFFFFF0000000000000000FFFFFFFC,
      0xB3312FA7E23EE7E4988E056BE3F82D19181D9C6EFE8141120314088F5013875AC656398D8A2ED19D2A85C8EDD3EC2AEF,
      (0xAA87CA22BE8B05378EB1C71EF320AD746E1D3B628BA79B9859F741E082542A385502F25DBF55296C3A545E3872760AB7,
        0x3617DE4A96262C6F5D9E98BF9292DC29F8F41DBD289A147CE9DA3113B5F0B8C00A60B1CE1D7E819D7A431D7C90EA0E5F),
      0xFFFFFFFFFFFFFFFFFFFFFFFFFFFFFFFFFFFFFFFFFFFFFFFFC7634D81F4372DDF581A0DB248B0A77AECEC196ACCC52973⟩⟩

def secp521r1 : NamedCurve :=
  ⟨[1, 3, 132, 0, 35],
    ⟨.prime 0x1FFFFFFFFFFFFFFFFFFFFFFFFFFFFFFFFFFFFFFFFFFFFFFFFFFFFFFFFFFFFFFFFFFFFFFFFFFFFFFFFFFFFFFFFFFFFFFFFFFFFFFFFFFFFFFFFFFFFFFFFFFFFFFFFFF,
      0x1FFFFFFFFFFFFFFFFFFFFFFFFFFFFFFFFFFFFFFFFFFFFFFFFFFFFFFFFFFFFFFFFFFFFFFFFFFFFFFFFFFFFFFFFFFFFFFFFFFFFFFFFFFFFFFFFFFFFFFFFFFFFFFFFFC,
      0x51953EB9618E1C9A1F929A21A0B68540EEA2DA725B99B315F3B8B489918EF109E156193951EC7E937B1652C0BD3BB1BF073573DF883D2C34F1EF451FD46B503F00,
      (0xC6858E06B70404E9CD9E3ECB662395B4429C648139053FB521F828AF606B4D3DBAA14B5E77EFE75928FE1DC127A2FFA8DE3348B3C1856A429BF97E7E31C2E5BD66,
        0x11839296A789A3BC0045C8A5FB42C7D1BD998F54449579B446817AFBD17273E662C97EE72995EF42640C550B9013FAD0761353C7086A272C24088BE94769FD16650),
      0x1FFFFFFFFFFFFFFFFFFFFFFFFFFFFFFFFFFFFFFFFFFFFFFFFFFFFFFFFFFFFFFFFFA51868783BF2F966B7FCC0148F709A5D03BB5C9B8899C47AEBB6FB71E91386409⟩⟩

def prime192v1 : NamedCurve :=
  ⟨[1, 2, 840, 10045, 3, 1, 1],
    ⟨.prime 0xFFFFFFFFFFFFFFFFFFFFFFFFFFFFFFFEFFFFFFFFFFFFFFFF,
      0xFFFFFFFFFFFFFFFFFFFFFFFFFFFFFFFEFFFFFFFFFFFFFFFC,
      0x64210519E59C80E70FA7E9AB72243049FEB8DEECC146B9B1,
      (0x188DA80EB03090F67CBF20EB43A18800F4FF0AFD82FF1012,
        0x7192B95FFC8DA78631011ED6B24CDD573F977A11E794811),
      0xFFFFFFFFFFFFFFFFFFFFFFFF99DEF836146BC9B1B4D22831⟩⟩

def prime192v2 : NamedCurve :=
  ⟨[1, 2, 840, 10045, 3, 1, 2],
    ⟨.prime 0xFFFFFFFFFFFFFFFFFFFFFFFFFFFFFFFEFFFFFFFFFFFFFFFF,
      0xFFFFFFFFFFFFFFFFFFFFFFFFFFFFFFFEFFFFFFFFFFFFFFFC,
      0xCC22D6DFB95C6B25E49C0D6364A4E5980C393AA21668D953,
      (0xEEA2BAE7E1497842F2DE7769CFE9C989C072AD696F48034A,
        0x6574D11D69B6EC7A672BB82A083DF2F2B0847DE970B2DE15),
      0xFFFFFFFFFFFFFFFFFFFFFFFE5FB1A724DC80418648D8DD31⟩⟩

def prime192v3 : NamedCurve :=
  ⟨[1, 2, 840, 10045, 3, 1, 3],
    ⟨.prime 0xFFFFFFFFFFFFFFFFFFFFFFFFFFFFFFFEFFFFFFFFFFFFFFFF,
      0xFFFFFFFFFFFFFFFFFFFFFFFFFFFFFFFEFFFFFFFFFFFFFFFC,
      0x22123DC2395A05CAA7423DAECCC94760A7D462256BD56916,
      (0x7D29778100C65A1DA1783716588DCE2B8B4AEE8E228F1896,
        0x38A90F22637337334B49DCB66A6DC8F9978ACA7648A943B0),
      0xFFFFFFFFFFFFFFFFFFFFFFFF7A62D031C83F4294F640EC13⟩⟩

def prime239v1 : NamedCurve :=
  ⟨[1, 2, 840, 10045, 3, 1, 4],
    ⟨.prime 0x7FFFFFFFFFFFFFFFFFFFFFFF7FFFFFFFFFFF8000000000007FFFFFFFFFFF,
      0x7FFFFFFFFFFFFFFFFFFFFFFF7FFFFFFFFFFF8000000000007FFFFFFFFFFC,
      0x6B016C3BDCF18941D0D654921475CA71A9DB2FB27D1D37796185C2942C0A,
      (0xFFA963CDCA8816CCC33B8642BEDF905C3D358573D3F27FBBD3B3CB9AAAF,
        0x7DEBE8E4E90A5DAE6E4054CA530BA04654B36818CE226B39FCCB7B02F1AE),
      0x7FFFFFFFFFFFFFFFFFFFFFFF7FFFFF9E5E9A9F5D9071FBD1522688909D0B⟩⟩

def prime239v2 : NamedCurve :=
  ⟨[1, 2, 840, 10045, 3, 1, 5],
    ⟨.prime 0x7FFFFFFFFFFFFFFFFFFFFFFF7FFFFFFFFFFF8000000000007FFFFFFFFFFF,
      0x7FFFFFFFFFFFFFFFFFFFFFFF7FFFFFFFFFFF8000000000007FFFFFFFFFFC,
      0x617FAB6832576CBBFED50D99F0249C3FEE58B94BA0038C7AE84C8C832F2C,
      (0x38AF09D98727705120C921BB5E9E26296A3CDCF2F35757A0EAFD87B830E7,
        0x5B0125E4DBEA0EC7206DA0FC01D9B081329FB555DE6EF460237DFF8BE4BA),
      0x7FFFFFFFFFFFFFFFFFFFFFFF800000CFA7E8594377D414C03821BC582063⟩⟩

def prime239v3 : NamedCurve :=
  ⟨[1, 2, 840, 10045, 3, 1, 6],
    ⟨.prime 0x7FFFFFFFFFFFFFFFFFFFFFFF7FFFFFFFFFFF8000000000007FFFFFFFFFFF,
      0x7FFFFFFFFFFFFFFFFFFFFFFF7FFFFFFFFFFF8000000000007FFFFFFFFFFC,
      0x255705FA2A306654B1F4CB03D6A750A30C250102D4988717D9BA15AB6D3E,
      (0x6768AE8E18BB92CFCF005C949AA2C6D94853D0E660BBF854B1C9505FE95A,
        0x1607E6898F390C06BC1D552BAD226F3B6FCFE48B6E818499AF18E3ED6CF3),
      0x7FFFFFFFFFFFFFFFFFFFFFFF7FFFFF975DEB41B3A6057C3C432146526551⟩⟩

def prime256v1 : NamedCurve :=
  ⟨[1, 2, 840, 10045, 3, 1, 7],
    ⟨.prime 0xFFFFFFFF00000001000000000000000000000000FFFFFFFFFFFFFFFFFFFFFFFF,
      0xFFFFFFFF00000001000000000000000000000000FFFFFFFFFFFFFFFFFFFFFFFC,
      0x5AC635D8AA3A93E7B3EBBD55769886BC651D06B0CC53B0F63BCE3C3E27D2604B,
      (0x6B17D1F2E12C4247F8BCE6E563A440F277037D812DEB33A0F4A13945D898C296,
        0x4FE342E2FE1A7F9B8EE7EB4A7C0F9E162BCE33576B315ECECBB6406837BF51F5),
      0xFFFFFFFF00000000FFFFFFFFFFFFFFFFBCE6FAADA7179E84F3B9CAC2FC632551⟩⟩

def sect233k1 : NamedCurve :=
  ⟨[1, 3, 132, 0, 26],
    ⟨.binary 0x20000000000000000000000000000000000000004000000000000000001,
      0x0,
      0x1,
      (0x17232BA853A7E731AF129F22FF4149563A419C26BF50A4C9D6EEFAD6126,
        0x1DB537DECE819B7F70F555A67C427A8CD9BF18AEB9B56E0C11056FAE6A3),
      0x8000000000000000000000000000069D5BB915BCD46EFB1AD5F173ABDF⟩⟩

def sect233r1 : NamedCurve :=
  ⟨[1, 3, 132, 0, 27],
    ⟨.binary 0x20000000000000000000000000000000000000004000000000000000001,
      0x1,
      0x66647EDE6C332C7F8C0923BB58213B333B20E9CE4281FE115F7D8F90AD,
      (0xFAC9DFCBAC8313BB2139F1BB755FEF65BC391F8B36F8F8EB7371FD558B,
        0x1006A08A41903350678E58528BEBF8A0BEFF867A7CA36716F7E01F81052),
      0x1000000000000000000000000000013E974E72F8A6922031D2603CFE0D7⟩⟩

def sect239k1 : NamedCurve :=
  ⟨[1, 3, 132, 0, 3],
    ⟨.binary 0x800000000000000000004000000000000000000000000000000000000001,
      0x0,
      0x1,
      (0x29A0B6A887A983E9730988A68727A8B2D126C44CC2CC7B2A6555193035DC,
        0x76310804F12E549BDB011C103089E73510ACB275FC312A5DC6B76553F0CA),
      0x2000000000000000000000000000005A79FEC67CB6E91F1C1DA800E478A5⟩⟩

def sect283k1 : NamedCurve :=
  ⟨[1, 3, 132, 0, 16],
    ⟨.binary 0x800000000000000000000000000000000000000000000000000000000000000000010A1,
      0x0,
      0x1,
      (0x503213F78CA44883F1A3B8162F188E553CD265F23C1567A16876913B0C2AC2458492836,
        0x1CCDA380F1C9E318D90F95D07E5426FE87E45C0E8184698E45962364E34116177DD2259),
      0x1FFFFFFFFFFFFFFFFFFFFFFFFFFFFFFFFFFE9AE2ED07577265DFF7F94451E061E163C61⟩⟩

def sect283r1 : NamedCurve :=
  ⟨[1, 3, 132, 0, 17],
    ⟨.binary 0x800000000000000000000000000000000000000000000000000000000000000000010A1,
      0x1,
      0x27B680AC8B8596DA5A4AF8A19A0303FCA97FD7645309FA2A581485AF6263E313B79A2F5,
      (0x5F939258DB7DD90E1934F8C70B0DFEC2EED25B8557EAC9C80E2E198F8CDBECD86B12053,
        0x3676854FE24141CB98FE6D4B20D02B4516FF702350EDDB0826779C813F0DF45BE8112F4),
      0x3FFFFFFFFFFFFFFFFFFFFFFFFFFFFFFFFFFEF90399660FC938A90165B042A7CEFADB307⟩⟩

def sect409k1 : NamedCurve :=
  ⟨[1, 3, 132, 0, 36],
    ⟨.binary 0x2000000000000000000000000000000000000000000000000000000000000000000000000000000008000000000000000000001,
      0x0,
      0x1,
      (0x60F05F658F49C1AD3AB1890F7184210EFD0987E307C84C27ACCFB8F9F67CC2C460189EB5AAAA62EE222EB1B35540CFE9023746,
        0x1E369050B7C4E42ACBA1DACBF04299C3460782F918EA427E6325165E9EA10E3DA5F6C42E9C55215AA9CA27A5863EC48D8E0286B),
      0x7FFFFFFFFFFFFFFFFFFFFFFFFFFFFFFFFFFFFFFFFFFFFFFFFFFE5F83B2D4EA20400EC4557D5ED3E3E7CA5B4B5C83B8E01E5FCF⟩⟩

def sect409r1 : NamedCurve :=
  ⟨[1, 3, 132, 0, 37],
    ⟨.binary 0x2000000000000000000000000000000000000000000000000000000000000000000000000000000008000000000000000000001,
      0x1,
      0x21A5C2C8EE9FEB5C4B9A753B7B476B7FD6422EF1F3DD674761FA99D6AC27C8A9A197B272822F6CD57A55AA4F50AE317B13545F,
      (0x15D4860D088DDB3496B0C6064756260441CDE4AF1771D4DB01FFE5B34E59703DC255A868A1180515603AEAB60794E54BB7996A7,
        0x61B1CFAB6BE5F32BBFA78324ED106A7636B9C5A7BD198D0158AA4F5488D08F38514F1FDF4B4F40D2181B3681C364BA0273C706),
      0x10000000000000000000000000000000000000000000000000001E2AAD6A612F33307BE5FA47C3C9E052F838164CD37D9A21173⟩⟩

def sect571k1 : NamedCurve :=
  ⟨[1, 3, 132, 0, 38],
    ⟨.binary 0x80000000000000000000000000000000000000000000000000000000000000000000000000000000000000000000000000000000000000000000000000000000000000000000425,
      0x0,
      0x1,
      (0x26EB7A859923FBC82189631F8103FE4AC9CA2970012D5D46024804801841CA44370958493B205E647DA304DB4CEB08CBBD1BA39494776FB988B47174DCA88C7E2945283A01C8972,
        0x349DC807F4FBF374F4AEADE3BCA95314DD58CEC9F307A54FFC61EFC006D8A2C9D4979C0AC44AEA74FBEBBB9F772AEDCB620B01A7BA7AF1B320430C8591984F601CD4C143EF1C7A3),
      0x20000000000000000000000000000000000000000000000000000000000000000000000131850E1F19A63E4B391A8DB917F4138B630D84BE5D639381E91DEB45CFE778F637C1001⟩⟩

def sect571r1 : NamedCurve :=
  ⟨[1, 3, 132, 0, 39],
    ⟨.binary 0x80000000000000000000000000000000000000000000000000000000000000000000000000000000000000000000000000000000000000000000000000000000000000000000425,
      0x1,
      0x2F40E7E2221F295DE297117B7F3D62F5C6A97FFCB8CEFF1CD6BA8CE4A9A18AD84FFABBD8EFA59332BE7AD6756A66E294AFD185A78FF12AA520E4DE739BACA0C7FFEFF7F2955727A,
      (0x303001D34B856296C16C0D40D3CD7750A93D1D2955FA80AA5F40FC8DB7B2ABDBDE53950F4C0D293CDD711A35B67FB1499AE60038614F1394ABFA3B4C850D927E1E7769C8EEC2D19,
        0x37BF27342DA639B6DCCFFFEB73D69D78C6C27A6009CBBCA1980F8533921E8A684423E43BAB08A576291AF8F461BB2A8B3531D2F0485C19B16E2F1516E23DD3C1A4827AF1B8AC15B),
      0x3FFFFFFFFFFFFFFFFFFFFFFFFFFFFFFFFFFFFFFFFFFFFFFFFFFFFFFFFFFFFFFFFFFFFFFE661CE18FF55987308059B186823851EC7DD9CA1161DE93D5174D66E8382E9BB2FE84E47⟩⟩

def c2tnb239v1 : NamedCurve :=
  ⟨[1, 2, 840, 10045, 3, 0, 11],
    ⟨.binary 0x800000000000000000000000000000000000000000000000001000000001,
      0x32010857077C5431123A46B808906756F543423E8D27877578125778AC76,
      0x790408F2EEDAF392B012EDEFB3392F30F4327C0CA3F31FC383C422AA8C16,
      (0x57927098FA932E7C0A96D3FD5B706EF7E5F5C156E16B7E7C86038552E91D,
        0x61D8EE5077C33FECF6F1A16B268DE469C3C7744EA9A971649FC7A9616305),
      0x2000000000000000000000000000000F4D42FFE1492A4993F1CAD666E447⟩⟩

def c2tnb239v2 : NamedCurve :=
  ⟨[1, 2, 840, 10045, 3, 0, 12],
    ⟨.binary 0x800000000000000000000000000000000000000000000000001000000001,
      0x4230017757A767FAE42398569B746325D45313AF0766266479B75654E65F,
      0x5037EA654196CFF0CD82B2C14A2FCF2E3FF8775285B545722F03EACDB74B,
      (0x28F9D04E900069C8DC47A08534FE76D2B900B7D7EF31F5709F200C4CA205,
        0x5667334C45AFF3B5A03BAD9DD75E2C71A99362567D5453F7FA6E227EC833),
      0x1555555555555555555555555555553C6F2885259C31E3FCDF154624522D⟩⟩

def c2tnb239v3 : NamedCurve :=
  ⟨[1, 2, 840, 10045, 3, 0, 13],
    ⟨.binary 0x800000000000000000000000000000000000000000000000001000000001,
      0x1238774666A67766D6676F778E676B66999176666E687666D8766C66A9F,
      0x6A941977BA9F6A435199ACFC51067ED587F519C5ECB541B8E44111DE1D40,
      (0x70F6E9D04D289C4E89913CE3530BFDE903977D42B146D539BF1BDE4E9C92,
        0x2E5A0EAF6E5E1305B9004DCE5C0ED7FE59A35608F33837C816D80B79F461),
      0xCCCCCCCCCCCCCCCCCCCCCCCCCCCCCAC4912D2D9DF903EF9888B8A0E4CFF⟩⟩

def c2pnb272w1 : NamedCurve :=
  ⟨[1, 2, 840, 10045, 3, 0, 16],
    ⟨.binary 0x10000000000000000000000000000000000000000000000000000010000000000000B,
      0x91A091F03B5FBA4AB2CCF49C4EDD220FB028712D42BE752B2C40094DBACDB586FB20,
      0x7167EFC92BB2E3CE7C8AAAFF34E12A9C557003D7C73A6FAF003F99F6CC8482E540F7,
      (0x6108BABB2CEEBCF787058A056CBE0CFE622D7723A289E08A07AE13EF0D10D171DD8D,
        0x10C7695716851EEF6BA7F6872E6142FBD241B830FF5EFCACECCAB05E02005DDE9D23),
      0x100FAF51354E0E39E4892DF6E319C72C8161603FA45AA7B998A167B8F1E629521⟩⟩

def c2pnb304w1 : NamedCurve :=
  ⟨[1, 2, 840, 10045, 3, 0, 17],
    ⟨.binary 0x10000000000000000000000000000000000000000000000000000000000000000000000000807,
      0xFD0D693149A118F651E6DCE6802085377E5F882D1B510B44160074C1288078365A0396C8E681,
      0xBDDB97E555A50A908E43B01C798EA5DAA6788F1EA2794EFCF57166B8C14039601E55827340BE,
      (0x197B07845E9BE2D96ADB0F5F3C7F2CFFBD7A3EB8B6FEC35C7FD67F26DDF6285A644F740A2614,
        0xE19FBEB76E0DA171517ECF401B50289BF014103288527A9B416A105E80260B549FDC1B92C03B),
      0x101D556572AABAC800101D556572AABAC8001022D5C91DD173F8FB561DA6899164443051D⟩⟩

def c2tnb359v1 : NamedCurve :=
  ⟨[1, 2, 840, 10045, 3, 0, 18],
    ⟨.binary 0x800000000000000000000000000000000000000000000000000000000000000000000000100000000000000001,
      0x5667676A654B20754F356EA92017D946567C46675556F19556A04616B567D223A5E05656FB549016A96656A557,
      0x2472E2D0197C49363F1FE7F5B6DB075D52B6947D135D8CA445805D39BC345626089687742B6329E70680231988,
      (0x3C258EF3047767E7EDE0F1FDAA79DAEE3841366A132E163ACED4ED2401DF9C6BDCDE98E8E707C07A2239B1B097,
        0x53D7E08529547048121E9C95F3791DD804963948F34FAE7BF44EA82365DC7868FE57E4AE2DE211305A407104BD),
      0x1AF286BCA1AF286BCA1AF286BCA1AF286BCA1AF286BC9FB8F6B85C556892C20A7EB964FE7719E74F490758D3B⟩⟩

def c2pnb368w1 : NamedCurve :=
  ⟨[1, 2, 840, 10045, 3, 0, 19],
    ⟨.binary 0x100000000000000000000000000000000000000000000000000000000000000000000002000000000000000000007,
      0xE0D2EE25095206F5E2A4F9ED229F1F256E79A0E2B455970D8D0D865BD94778C576D62F0AB7519CCD2A1A906AE30D,
      0xFC1217D4320A90452C760A58EDCD30C8DD069B3C34453837A34ED50CB54917E1C2112D84D164F444F8F74786046A,
      (0x1085E2755381DCCCE3C1557AFA10C2F0C0C2825646C5B34A394CBCFA8BC16B22E7E789E927BE216F02E1FB136A5F,
        0x7B3EB1BDDCBA62D5D8B2059B525797FC73822C59059C623A45FF3843CEE8F87CD1855ADAA81E2A0750B80FDA2310),
      0x10090512DA9AF72B08349D98A5DD4C7B0532ECA51CE03E2D10F3B7AC579BD87E909AE40A6F131E9CFCE5BD967⟩⟩

def c2tnb431r1 : NamedCurve :=
  ⟨[1, 2, 840, 10045, 3, 0, 20],
    ⟨.binary 0x800000000000000000000000000000000000000000000000000000000000000000000000000001000000000000000000000000000001,
      0x1A827EF00DD6FC0E234CAF046C6A5D8A85395B236CC4AD2CF32A0CADBDC9DDF620B0EB9906D0957F6C6FEACD615468DF104DE296CD8F,
      0x10D9B4A3D9047D8B154359ABFB1B7F5485B04CEB868237DDC9DEDA982A679A5A919B626D4E50A8DD731B107A9962381FB5D807BF2618,
      (0x120FC05D3C67A99DE161D2F4092622FECA701BE4F50F4758714E8A87BBF2A658EF8C21E7C5EFE965361F6C2999C0C247B0DBD70CE6B7,
        0x20D0AF8903A96F8D5FA2C255745D3C451B302C9346D9B7E485E7BCE41F6B591F3E8F6ADDCBB0BC4C2F947A7DE1A89B625D6A598B3760),
      0x340340340340340340340340340340340340340340340340340340323C313FAB50589703B5EC68D3587FEC60D161CC149C1AD4A91⟩⟩

def wtls6 : NamedCurve :=
  ⟨[2, 23, 43, 1, 4, 6],
    ⟨.prime 0xDB7C2ABF62E35E668076BEAD208B,
      0xDB7C2ABF62E35E668076BEAD2088,
      0x659EF8BA043916EEDE8911702B22,
      (0x9487239995A5EE76B55F9C2F098,
        0xA89CE5AF8724C0A23E0E0FF77500),
      0xDB7C2ABF62E35E7628DFAC6561C5⟩⟩

def wtls7 : NamedCurve :=
  ⟨[2, 23, 43, 1, 4, 7],
    ⟨.prime 0xFFFFFFFFFFFFFFFFFFFFFFFFFFFFFFFEFFFFAC73,
      0xFFFFFFFFFFFFFFFFFFFFFFFFFFFFFFFEFFFFAC70,
      0xB4E134D3FB59EB8BAB57274904664D5AF50388BA,
      (0x52DCB034293A117E1F4FF11B30F7199D3144CE6D,
        0xFEAFFEF2E331F296E071FA0DF9982CFEA7D43F2E),
      0x100000000000000000000351EE786A818F3A1A16B⟩⟩

def wtls8 : NamedCurve :=
  ⟨[2, 23, 43, 1, 4, 8],
    ⟨.prime 0xFFFFFFFFFFFFFFFFFFFFFFFFFDE7,
      0x0,
      0x3,
      (0x1,
        0x2),
      0x100000000000001ECEA551AD837E9⟩⟩

def wtls9 : NamedCurve :=
  ⟨[2, 23, 43, 1, 4, 9],
    ⟨.prime 0xFFFFFFFFFFFFFFFFFFFFFFFFFFFFFFFFFFFC808F,
      0x0,
      0x3,
      (0x1,
        0x2),
      0x100000000000000000001CDC98AE0E2DE574ABF33⟩⟩

def wtls10 : NamedCurve :=
  ⟨[2, 23, 43, 1, 4, 10],
    ⟨.binary 0x20000000000000000000000000000000000000004000000000000000001,
      0x0,
      0x1,
      (0x17232BA853A7E731AF129F22FF4149563A419C26BF50A4C9D6EEFAD6126,
        0x1DB537DECE819B7F70F555A67C427A8CD9BF18AEB9B56E0C11056FAE6A3),
      0x8000000000000000000000000000069D5BB915BCD46EFB1AD5F173ABDF⟩⟩

def wtls11 : NamedCurve :=
  ⟨[2, 23, 43, 1, 4, 11],
    ⟨.binary 0x20000000000000000000000000000000000000004000000000000000001,
      0x1,
      0x66647EDE6C332C7F8C0923BB58213B333B20E9CE4281FE115F7D8F90AD,
      (0xFAC9DFCBAC8313BB2139F1BB755FEF65BC391F8B36F8F8EB7371FD558B,
        0x1006A08A41903350678E58528BEBF8A0BEFF867A7CA36716F7E01F81052),
      0x1000000000000000000000000000013E974E72F8A6922031D2603CFE0D7⟩⟩

def wtls12 : NamedCurve :=
  ⟨[2, 23, 43, 1, 4, 12],
    ⟨.prime 0xFFFFFFFFFFFFFFFFFFFFFFFFFFFFFFFF000000000000000000000001,
      0xFFFFFFFFFFFFFFFFFFFFFFFFFFFFFFFEFFFFFFFFFFFFFFFFFFFFFFFE,
      0xB4050A850C04B3ABF54132565044B0B7D7BFD8BA270B39432355FFB4,
      (0xB70E0CBD6BB4BF7F321390B94A03C1D356C21122343280D6115C1D21,
        0xBD376388B5F723FB4C22DFE6CD4375A05A07476444D5819985007E34),
      0xFFFFFFFFFFFFFFFFFFFFFFFFFFFF16A2E0B8F03E13DD29455C5C2A3D⟩⟩

def brainpoolP160r1 : NamedCurve :=
  ⟨[1, 3, 36, 3, 3, 2, 8, 1, 1, 1],
    ⟨.prime 0xE95E4A5F737059DC60DFC7AD95B3D8139515620F,
      0x340E7BE2A280EB74E2BE61BADA745D97E8F7C300,
      0x1E589A8595423412134FAA2DBDEC95C8D8675E58,
      (0xBED5AF16EA3F6A4F62938C4631EB5AF7BDBCDBC3,
        0x1667CB477A1A8EC338F94741669C976316DA6321),
      0xE95E4A5F737059DC60DF5991D45029409E60FC09⟩⟩

def brainpoolP160t1 : NamedCurve :=
  ⟨[1, 3, 36, 3, 3, 2, 8, 1, 1, 2],
    ⟨.prime 0xE95E4A5F737059DC60DFC7AD95B3D8139515620F,
      0xE95E4A5F737059DC60DFC7AD95B3D8139515620C,
      0x7A556B6DAE535B7B51ED2C4D7DAA7A0B5C55F380,
      (0xB199B13B9B34EFC1397E64BAEB05ACC265FF2378,
        0xADD6718B7C7C1961F0991B842443772152C9E0AD),
      0xE95E4A5F737059DC60DF5991D45029409E60FC09⟩⟩

def brainpoolP192r1 : NamedCurve :=
  ⟨[1, 3, 36, 3, 3, 2, 8, 1, 1, 3],
    ⟨.prime 0xC302F41D932A36CDA7A3463093D18DB78FCE476DE1A86297,
      0x6A91174076B1E0E19C39C031FE8685C1CAE040E5C69A28EF,
      0x469A28EF7C28CCA3DC721D044F4496BCCA7EF4146FBF25C9,
      (0xC0A0647EAAB6A48753B033C56CB0F0900A2F5C4853375FD6,
        0x14B690866ABD5BB88B5F4828C1490002E6773FA2FA299B8F),
      0xC302F41D932A36CDA7A3462F9E9E916B5BE8F1029AC4ACC1⟩⟩

def brainpoolP192t1 : NamedCurve :=
  ⟨[1, 3, 36, 3, 3, 2, 8, 1, 1, 4],
    ⟨.prime 0xC302F41D932A36CDA7A3463093D18DB78FCE476DE1A86297,
      0xC302F41D932A36CDA7A3463093D18DB78FCE476DE1A86294,
      0x13D56FFAEC78681E68F9DEB43B35BEC2FB68542E27897B79,
      (0x3AE9E58C82F63C30282E1FE7BBF43FA72C446AF6F4618129,
        0x97E2C5667C2223A902AB5CA449D0084B7E5B3DE7CCC01C9),
      0xC302F41D932A36CDA7A3462F9E9E916B5BE8F1029AC4ACC1⟩⟩

def brainpoolP224r1 : NamedCurve :=
  ⟨[1, 3, 36, 3, 3, 2, 8, 1, 1, 5],
    ⟨.prime 0xD7C134AA264366862A18302575D1D787B09F075797DA89F57EC8C0FF,
      0x68A5E62CA9CE6C1C299803A6C1530B514E182AD8B0042A59CAD29F43,
      0x2580F63CCFE44138870713B1A92369E33E2135D266DBB372386C400B,
      (0xD9029AD2C7E5CF4340823B2A87DC68C9E4CE3174C1E6EFDEE12C07D,
        0x58AA56F772C0726F24C6B89E4ECDAC24354B9E99CAA3F6D3761402CD),
      0xD7C134AA264366862A18302575D0FB98D116BC4B6DDEBCA3A5A7939F⟩⟩

def brainpoolP224t1 : NamedCurve :=
  ⟨[1, 3, 36, 3, 3, 2, 8, 1, 1, 6],
    ⟨.prime 0xD7C134AA264366862A18302575D1D787B09F075797DA89F57EC8C0FF,
      0xD7C134AA264366862A18302575D1D787B09F075797DA89F57EC8C0FC,
      0x4B337D934104CD7BEF271BF60CED1ED20DA14C08B3BB64F18A60888D,
      (0x6AB1E344CE25FF3896424E7FFE14762ECB49F8928AC0C76029B4D580,
        0x374E9F5143E568CD23F3F4D7C0D4B1E41C8CC0D1C6ABD5F1A46DB4C),
      0xD7C134AA264366862A18302575D0FB98D116BC4B6DDEBCA3A5A7939F⟩⟩

def brainpoolP256r1 : NamedCurve :=
  ⟨[1, 3, 36, 3, 3, 2, 8, 1, 1, 7],
    ⟨.prime 0xA9FB57DBA1EEA9BC3E660A909D838D726E3BF623D52620282013481D1F6E5377,
      0x7D5A0975FC2C3057EEF67530417AFFE7FB8055C126DC5C6CE94A4B44F330B5D9,
      0x26DC5C6CE94A4B44F330B5D9BBD77CBF958416295CF7E1CE6BCCDC18FF8C07B6,
      (0x8BD2AEB9CB7E57CB2C4B482FFC81B7AFB9DE27E1E3BD23C23A4453BD9ACE3262,
        0x547EF835C3DAC4FD97F8461A14611DC9C27745132DED8E545C1D54C72F046997),
      0xA9FB57DBA1EEA9BC3E660A909D838D718C397AA3B561A6F7901E0E82974856A7⟩⟩

def brainpoolP256t1 : NamedCurve :=
  ⟨[1, 3, 36, 3, 3, 2, 8, 1, 1, 8],
    ⟨.prime 0xA9FB57DBA1EEA9BC3E660A909D838D726E3BF623D52620282013481D1F6E5377,
      0xA9FB57DBA1EEA9BC3E660A909D838D726E3BF623D52620282013481D1F6E5374,
      0x662C61C430D84EA4FE66A7733D0B76B7BF93EBC4AF2F49256AE58101FEE92B04,
      (0xA3E8EB3CC1CFE7B7732213B23A656149AFA142C47AAFBC2B79A191562E1305F4,
        0x2D996C823439C56D7F7B22E14644417E69BCB6DE39D027001DABE8F35B25C9BE),
      0xA9FB57DBA1EEA9BC3E660A909D838D718C397AA3B561A6F7901E0E82974856A7⟩⟩

def brainpoolP320r1 : NamedCurve :=
  ⟨[1, 3, 36, 3, 3, 2, 8, 1, 1, 9],
    ⟨.prime 0xD35E472036BC4FB7E13C785ED201E065F98FCFA6F6F40DEF4F92B9EC7893EC28FCD412B1F1B32E27,
      0x3EE30B568FBAB0F883CCEBD46D3F3BB8A2A73513F5EB79DA66190EB085FFA9F492F375A97D860EB4,
      0x520883949DFDBC42D3AD198640688A6FE13F41349554B49ACC31DCCD884539816F5EB4AC8FB1F1A6,
      (0x43BD7E9AFB53D8B85289BCC48EE5BFE6F20137D10A087EB6E7871E2A10A599C710AF8D0D39E20611,
        0x14FDD05545EC1CC8AB4093247F77275E0743FFED117182EAA9C77877AAAC6AC7D35245D1692E8EE1),
      0xD35E472036BC4FB7E13C785ED201E065F98FCFA5B68F12A32D482EC7EE8658E98691555B44C59311⟩⟩

def brainpoolP320t1 : NamedCurve :=
  ⟨[1, 3, 36, 3, 3, 2, 8, 1, 1, 10],
    ⟨.prime 0xD35E472036BC4FB7E13C785ED201E065F98FCFA6F6F40DEF4F92B9EC7893EC28FCD412B1F1B32E27,
      0xD35E472036BC4FB7E13C785ED201E065F98FCFA6F6F40DEF4F92B9EC7893EC28FCD412B1F1B32E24,
      0xA7F561E038EB1ED560B3D147DB782013064C19F27ED27C6780AAF77FB8A547CEB5B4FEF422340353,
      (0x925BE9FB01AFC6FB4D3E7D4990010F813408AB106C4F09CB7EE07868CC136FFF3357F624A21BED52,
        0x63BA3A7A27483EBF6671DBEF7ABB30EBEE084E58A0B077AD42A5A0989D1EE71B1B9BC0455FB0D2C3),
      0xD35E472036BC4FB7E13C785ED201E065F98FCFA5B68F12A32D482EC7EE8658E98691555B44C59311⟩⟩

def brainpoolP384r1 : NamedCurve :=
  ⟨[1, 3, 36, 3, 3, 2, 8, 1, 1, 11],
    ⟨.prime 0x8CB91E82A3386D280F5D6F7E50E641DF152F7109ED5456B412B1DA197FB71123ACD3A729901D1A71874700133107EC53,
      0x7BC382C63D8C150C3C72080ACE05AFA0C2BEA28E4FB22787139165EFBA91F90F8AA5814A503AD4EB04A8C7DD22CE2826,
      0x4A8C7DD22CE28268B39B55416F0447C2FB77DE107DCD2A62E880EA53EEB62D57CB4390295DBC9943AB78696FA504C11,
      (0x1D1C64F068CF45FFA2A63A81B7C13F6B8847A3E77EF14FE3DB7FCAFE0CBD10E8E826E03436D646AAEF87B2E247D4AF1E,
        0x8ABE1D7520F9C2A45CB1EB8E95CFD55262B70B29FEEC5864E19C054FF99129280E4646217791811142820341263C5315),
      0x8CB91E82A3386D280F5D6F7E50E641DF152F7109ED5456B31F166E6CAC0425A7CF3AB6AF6B7FC3103B883202E9046565⟩⟩

def brainpoolP384t1 : NamedCurve :=
  ⟨[1, 3, 36, 3, 3, 2, 8, 1, 1, 12],
    ⟨.prime 0x8CB91E82A3386D280F5D6F7E50E641DF152F7109ED5456B412B1DA197FB71123ACD3A729901D1A71874700133107EC53,
      0x8CB91E82A3386D280F5D6F7E50E641DF152F7109ED5456B412B1DA197FB71123ACD3A729901D1A71874700133107EC50,
      0x7F519EADA7BDA81BD826DBA647910F8C4B9346ED8CCDC64E4B1ABD11756DCE1D2074AA263B88805CED70355A33B471EE,
      (0x18DE98B02DB9A306F2AFCD7235F72A819B80AB12EBD653172476FECD462AABFFC4FF191B946A5F54D8D0AA2F418808CC,
        0x25AB056962D30651A114AFD2755AD336747F93475B7A1FCA3B88F2B6A208CCFE469408584DC2B2912675BF5B9E582928),
      0x8CB91E82A3386D280F5D6F7E50E641DF152F7109ED5456B31F166E6CAC0425A7CF3AB6AF6B7FC3103B883202E9046565⟩⟩

def brainpoolP512r1 : NamedCurve :=
  ⟨[1, 3, 36, 3, 3, 2, 8, 1, 1, 13],
    ⟨.prime 0xAADD9DB8DBE9C48B3FD4E6AE33C9FC07CB308DB3B3C9D20ED6639CCA703308717D4D9B009BC66842AECDA12AE6A380E62881FF2F2D82C68528AA6056583A48F3,
      0x7830A3318B603B89E2327145AC234CC594CBDD8D3DF91610A83441CAEA9863BC2DED5D5AA8253AA10A2EF1C98B9AC8B57F1117A72BF2C7B9E7C1AC4D77FC94CA,
      0x3DF91610A83441CAEA9863BC2DED5D5AA8253AA10A2EF1C98B9AC8B57F1117A72BF2C7B9E7C1AC4D77FC94CADC083E67984050B75EBAE5DD2809BD638016F723,
      (0x81AEE4BDD82ED9645A21322E9C4C6A9385ED9F70B5D916C1B43B62EEF4D0098EFF3B1F78E2D0D48D50D1687B93B97D5F7C6D5047406A5E688B352209BCB9F822,
        0x7DDE385D566332ECC0EABFA9CF7822FDF209F70024A57B1AA000C55B881F8111B2DCDE494A5F485E5BCA4BD88A2763AED1CA2B2FA8F0540678CD1E0F3AD80892),
      0xAADD9DB8DBE9C48B3FD4E6AE33C9FC07CB308DB3B3C9D20ED6639CCA70330870553E5C414CA92619418661197FAC10471DB1D381085DDADDB58796829CA90069⟩⟩

def brainpoolP512t1 : NamedCurve :=
  ⟨[1, 3, 36, 3, 3, 2, 8, 1, 1, 14],
    ⟨.prime 0xAADD9DB8DBE9C48B3FD4E6AE33C9FC07CB308DB3B3C9D20ED6639CCA703308717D4D9B009BC66842AECDA12AE6A380E62881FF2F2D82C68528AA6056583A48F3,
      0xAADD9DB8DBE9C48B3FD4E6AE33C9FC07CB308DB3B3C9D20ED6639CCA703308717D4D9B009BC66842AECDA12AE6A380E62881FF2F2D82C68528AA6056583A48F0,
      0x7CBBBCF9441CFAB76E1890E46884EAE321F70C0BCB4981527897504BEC3E36A62BCDFA2304976540F6450085F2DAE145C22553B465763689180EA2571867423E,
      (0x640ECE5C12788717B9C1BA06CBC2A6FEBA85842458C56DDE9DB1758D39C0313D82BA51735CDB3EA499AA77A7D6943A64F7A3F25FE26F06B51BAA2696FA9035DA,
        0x5B534BD595F5AF0FA2C892376C84ACE1BB4E3019B71634C01131159CAE03CEE9D9932184BEEF216BD71DF2DADF86A627306ECFF96DBB8BACE198B61E00F8B332),
      0xAADD9DB8DBE9C48B3FD4E6AE33C9FC07CB308DB3B3C9D20ED6639CCA70330870553E5C414CA92619418661197FAC10471DB1D381085DDADDB58796829CA90069⟩⟩

def sm2 : NamedCurve :=
  ⟨[1, 2, 156, 10197, 1, 301],
    ⟨.prime 0xFFFFFFFEFFFFFFFFFFFFFFFFFFFFFFFFFFFFFFFF00000000FFFFFFFFFFFFFFFF,
      0xFFFFFFFEFFFFFFFFFFFFFFFFFFFFFFFFFFFFFFFF00000000FFFFFFFFFFFFFFFC,
      0x28E9FA9E9D9F5E344D5A9E4BCF6509A7F39789F515AB8F92DDBCBD414D940E93,
      (0x32C4AE2C1F1981195F9904466A39C9948FE30BBFF2660BE1715A4589334C74C7,
        0xBC3736A2F4F6779C59BDCEE36B692153D0A9877CC62A474002DF32E52139F0A0),
      0xFFFFFFFEFFFFFFFFFFFFFFFFFFFFFFFF7203DF6B21C6052B53BBF40939D54123⟩⟩

def all : List NamedCurve :=
  [secp112r1, secp112r2, secp128r1, secp128r2, secp160k1, secp160r1,
    secp160r2, secp192k1, secp224k1, secp224r1, secp256k1, secp384r1, secp521r1, prime192v1,
    prime192v2, prime192v3, prime239v1, prime239v2, prime239v3, prime256v1, sect233k1, sect233r1,
    sect239k1, sect283k1, sect283r1, sect409k1, sect409r1, sect571k1, sect571r1, c2tnb239v1,
    c2tnb239v2, c2tnb239v3, c2pnb272w1, c2pnb304w1, c2tnb359v1, c2pnb368w1, c2tnb431r1, wtls6,
    wtls7, wtls8, wtls9, wtls10, wtls11, wtls12, brainpoolP160r1, brainpoolP160t1, brainpoolP192r1,
    brainpoolP192t1, brainpoolP224r1, brainpoolP224t1, brainpoolP256r1, brainpoolP256t1,
    brainpoolP320r1, brainpoolP320t1, brainpoolP384r1, brainpoolP384t1, brainpoolP512r1,
    brainpoolP512t1, sm2]

def ofId? (id : Asn1.ObjectId) : Option NamedCurve := all.find? (·.id == id)

/-- The first name of a curve. -/
def ofCurve? (c : EllipticCurve) : Option NamedCurve := all.find? (·.curve == c)

end NamedCurve

end ClusterHarness
