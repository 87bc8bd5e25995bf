import FabricAudit.Text.Ranges

set_option autoImplicit false

/-! # General categories

The general category of every code point, by the Unicode standard. The table is a list of runs from
code point zero on: a sign for the category, and the length of the run in hexadecimal, unless it is
one.
-/

namespace FabricAudit.Text

def categorySigns : List (Char × String) := [
  ('A', "Lu"), ('B', "Ll"), ('C', "Lt"), ('D', "Lm"), ('E', "Lo"), ('F', "Mn"),
  ('G', "Mc"), ('H', "Me"), ('I', "Nd"), ('J', "Nl"), ('K', "No"), ('L', "Pc"),
  ('M', "Pd"), ('N', "Ps"), ('O', "Pe"), ('P', "Pi"), ('Q', "Pf"), ('R', "Po"),
  ('S', "Sm"), ('T', "Sc"), ('U', "Sk"), ('V', "So"), ('W', "Zs"), ('X', "Zl"),
  ('Y', "Zp"), ('Z', "Cc"), ('!', "Cf"), ('#', "Cs"), ('$', "Co"), ('%', "Cn")]

/-- Runs of a table from a code point on: the first code point after each, and its category. -/
def readRuns : Nat → Nat → List Char → List (Nat × String)
  | 0, _, _ => []
  | _, _, [] => []
  | fuel + 1, start, sign :: rest =>
    let ds := rest.takeWhile fun c => Decimal.isDigit c || ('a' ≤ c && c ≤ 'f')
    let stop := start + (if ds.isEmpty then 1 else hexNumeral ds)
    (stop, (categorySigns.lookup sign).getD "Cn") :: readRuns fuel stop (rest.drop ds.length)

def categoryTable : List String :=
  ["Z20WR3TR3NORSRMR2IaR2S3R2A1aNROULUB1aNSOSZ21WRT4VRUVEPS!VUVSK2UBR2UKEQK3RA17SA7B18SB8ABABA",
    "BABABABABABABABABABABABABABABABABABABABABABABABABAB2ABABABABABABABAB2ABABABABABABABABABABA",
    "BABABABABABABABABABABABABA2BABAB3A2BABA2BA3B2A4BA2BA3B3A2BA2BABABA2BAB2ABA2BA3BABA2B2EAB3E4",
    "ACBACBACBABABABABABABABAB2ABABABABABABABABAB2ACBABA3BABABABABABABABABABABABABABABABABABABA",
    "BABABABABABABABABABAB7A2BA2B2ABA4BABABABAB45E2B1aD12U4DcUeD5U7DUDU11F70ABABDUAB%2DB3RA%4U2",
    "ARA3%A%A2BA11%A9B23AB2A3B3ABABABABABABABABABABABAB5ABSABA2B2A33B30ABABABABABABABABABABABAB",
    "ABABABABABVF5H2ABABABABABABABABABABABABABABABABABABABABABABABABABABABA2BABABABABABAB2ABABA",
    "BABABABABABABABABABABABABABABABABABABABABABABABABABABABABABABABABABABABABABABABABABABABABA",
    "B%A26%2DR6B29RM%2V2T%F2dMFRF2RF2RF%8E1b%4E4R2%b!6S3R2TR2V2FbR!R3E20DEaF15IaR4E2FE63REF7!VF6",
    "D2F2VF4E2IaE3V2ERe%!EFE1eF1b%2E59FbE%eIaE21F9D2VR3D%2FT2E16F4DF9DF3DF5%2Rf%E19F3%2R%Eb%5E18",
    "UE7!2%5F9E29DF18!F20GE36FGFEG3F8G4FG2EF7EaF2R2IaRDEfFG2%E8%2E2%2E16%E7%E%3E4%2FEG3F4%2G2%2",
    "G2FE%8G%4E2%E3F2%2IaE2T2K6VTERF%2F2G%E6%4E2%2E16%E7%E2%E2%E2%2F%G3F2%4F2%2F3%3F%7E4%E%7IaF2",
    "E3FR%aF2G%E9%E3%E16%E7%E2%E5%2FEG3F5%F2G%G2F%2E%fE2F2%2IaRT%7EF6%FG2%E8%2E2%2E16%E7%E2%E5%2",
    "FEGFGF4%2G2%2G2F%7F2G%4E2%E3F2%2IaVEK6%aFE%E6%3E3%E4%3E2%E%E2%3E2%3E3%3Ec%4G2FG2%3G3%G3F%2",
    "E%6G%eIaK3V6TV%5FG3FE8%E3%E17%E10%2FEF3G4%F3%F4%7F2%E3%E2%2E2F2%2Ia%7RK7VEFG2RE8%E3%E17%Ea",
    "%E5%2FEGFG5%FG2%G2F2%7G2%5E3%E2F2%2Ia%E2G%cF2G2E9%E3%E29F2EG3F4%G3%G3FEV%4E3GK7E3F2%2IaK9V",
    "E6%FG2%E12%3E18%E9%E%2E7%3F%4G3F3%F%G8%6Ia%2G2R%cE30FE2F7%4TE6DF8RIaR2%25E2%E%E5%E18%E%EaF",
    "E2F9E%2E5%D%F7%Ia%2E4%20EV3RfVRV3F2V6IaKaVFVFVFNONOG2E8%E24%4FeGF5RF2E5Fb%F24%V8FV6%V2R5V4",
    "R2%25E2bG2F4GF6GF2G2F2EIaR6E6G2F2E4F3EG3E2G7E3F4EdFG2F2G6FEGIaG3FV2A26%A%5A%2B2bRDB3E149%E4",
    "%2E7%E%E4%2E29%E4%2E21%E4%2E7%E%E4%2Ef%E39%E4%2E43%2F3R9K14%3E10Va%6A56%2B6%2ME26cVRE11WE1a",
    "NO%3E4bR3J3E8%7E12F3G%9E13F2GR2%9E12F2%cEd%E3%F2%cE34F2GF7G8FG2FbR3DR3TEF%2Ia%6Ka%6R6MR4F3",
    "!FIa%6E23DE35%7E5F2E22FE%5E46%aE1f%F3G4F2G3%4G2FG6F3%4V%3R2IaE1e%2E5%bE2c%4E1a%6IaK%3V22E17",
    "F2G2F%2R2E35GFGF7%FGFG2F8G6Fa%2FIa%6Ia%6R7DR6%2FeHF1f%2Fc%14F4GE2fFGF5GFG5FG2E8%R2IaR7VaF9",
    "V9R3F2GE1eGF4G2F2GF3E2IaE2cFGF2G3FGF3G2%8R4E24G8F8G2F2%3R5Ia%3E3IaE1eD6R2B9AB%5A2b%2A3R8%8",
    "F3RFdGF7E4FE6FE2GF2E%5B2cD3fBdDB22D25F40ABABABABABABABABABABABABABABABABABABABABABABABABAB",
    "ABABABABABABABABABABABABABABABABABABABABABABABABABABABABABABABABABABABABABABABABABABABABAB",
    "ABABABABAB9ABABABABABABABABABABABABABABABABABABABABABABABABABABABABABABABABABABABABABABABA",
    "BABABABABABABABABAB9A8B6%2A6%2B8A8B8A8B6%2A6%2B8%A%A%A%AB8A8Be%2B8C8B8C8B8C8B5%B2A4CUBU3B3",
    "%B2A4CU3B4%2B2A4%U3B8A5U3%2B3%B2A4CU2%Wb!5M6R2PQNP2QNPR8XY!5WR9PQR4L2R3SNORbSRLRaW!5%!aKD%2",
    "K6S3NODKaS3NO%Dd%3T22%eFdH4FH3Fc%fV2AV4AV2BA3B2A3BVAV2SA5V6AVAVAVA4VBA4BE4BV2B2A2S5AB4VSV2",
    "BVK10J23ABJ4KV2%4S5V5S2V4SV2SV2SV7SV1fS2V2SVSV1fS10cV8NONOV14S2V7NOV51SV1eS19V28S6V48%16Vb",
    "%15K3cV4eK16Vb7SV9SV36S8V6fSVf8NONONONONONONOK1eV2cS5NOS1fNONONONONOS10V100S83NONONONONONO",
    "NONONONONOS3fNONOS20NOS102V30S15V2S6V27%2V8aA30B30ABA3B2ABABABA4BAB2AB6D2A3BABABABABABABAB",
    "ABABABABABABABABABABABABABABABABABABABABABABABABABABABABABABABABABABABABABABABABABAB2V6ABA",
    "BF3AB%5R4KR2B26%B%5B%2E38%7DR%eFE17%9E7%E7%E7%E7%E7%E7%E7%E7%F20R2PQPQR3PQRPQR9MR2MRPQR2PQ",
    "NONONONOR5DRaM2R4MRNRdV2R3NONONONOM%22V1a%V59%cVd6%1aV10WR3VDEJNONONONONOV2NONONONOMNO2VJ9",
    "F4G2MD5V2J3DERV2%E56%2F2U2D2EME5aRD3E%5E2b%E5e%V2K4VaE20V26%9VE10V1f%KaV1eK8VKfV20KaV27KfV140",
    "E19c0V40E5215DE477%3V37%9E28D6R2E10cDR3E10IaE2%14ABABABABABABABABABABABABABABABABABABABABA",
    "BABABEFH3RFaRDABABABABABABABABABABABABABABD2F2E46JaF2R6%8U17D9U2ABABABABABABAB3ABABABABABA",
    "BABABABABABABABABABABABABABABABABABABABABABABABABABDB8ABABA2BABABABABDU2ABABEABAB3ABABABAB",
    "ABABABABABABA5BA5BABABABABABABABA4BABA2BABABABABABABABA%14D4ABED2BE7FE3FE4FE17G2F2GV4F%3K6",
    "V2TV%6E34R4%8G2E32G10F2%8R2Ia%6F12E6R3ERE2FIaE1cF8R2E17FbG2%bRE1d%3F3GE2fFG2F4G2F2G3Rd%DIa",
    "%4R2E5FDE9IaE5%E29F6G2F2G2F2%9E3FE8FG%2Ia%2R4E10DE6V3EGFGE32FEF3E2F2E5F2EFE%18E2DR2EbGF2G2",
    "R2ED2GF%aE6%2E6%2E6%9E7%E7%B2bUD4B9DU2%4B50E23G2FG2FG2RGF%2Ia%6E2ba4%cE17%4E31%4#800$1900E16e",
    "%2E6a%26B7%cB5%5EFEaSEd%E5%E%E2%E2%E6cU11V10E16bONV10E40V2E36V8%20EcTV3F10R7NOR%6F10RM2L2N",
    "ONONONONONONONOR2NOR4L3R3%R4MNONONOR3SMS3%RTR2%4E5%E87%2!%R3TR3NORSRMR2IaR2S3R2A1aNROULUB1a",
    "NSOSNORNOR2EaDE2dD2E1f%3E6%2E6%2E6%2E3%3T2SUVT2%VS4V2%a!3V2%2Ec%E1a%E13%E2%Ef%2Ee%22E7b%5R3",
    "%4K2d%3V9J35K4V11K2V3%Vd%3V%2fV2dF%82E1d%3E31%fFK1b%4E20K4%9E14JE8J%5E26F5%5E1e%RE24%4E8RJ5",
    "%2aA28B28E4e%2Ia%6A24%4B24%4E28%8E34%bRAb%Af%A7%A2%Bb%Bf%B7%B2%3E34%cE137%9E16%aE8%18D6%D2a",
    "%D9%45E6%2E%E2c%E2%3E%2E17%RK8E17V2K7E1f%8K9%30E13%E2%5K5E16K6%3RE1a%5RE1a%26E38%4K2E2K10%2",
    "K2eEF3%F2%5F4E4%E3%E1d%2F3%4FK9%7R9%7E1dK2RE1dK3%20E8VE1cF2%4K5R7%9E36%3R7E16%2K8E13%5K8E12",
    "%7R4%cK7%50E49%37A33%dB33%7K6E24F4%8Ia%6IaE4DEA16%3F5MDB16%8S2%d0K1f%E2a%F2M%2E2%10E3DE2%8",
    "RV8%21F6E1dKaE%8E16FbK4R5%16E12F4R4%26E15K7%14E17%9GFGE35FfR7%4K14IaFE2F2E%9F3GE2dG3F4G2F2",
    "R2!R4F%a!%2E19%7Ia%6F3E24F5GF8%IaR4EG2E%8E23FR2E%9F2GE30G3F9G2E4R4F4RGFIaERER3%K14%bE12%E19",
    "G3F3G2FGF2R6FE2F%3eE7%E%E4%Ef%EaR%6E2fFG3F8%5Ia%6F2G2%E8%2E2%2E16%E7%E2%E5%F2EG2FG4%2G2%2G3",
    "%2E%6G%5E5G2%2F7%3F5%bEa%E%2E%E26%EG3F6%G%2G%G4%G2FGFEFER2%R2%8F2%1dE35G3F8G2F3GFE4R5IaR2%",
    "RFE3%1eE30G3F6GFG4F2GF2E2RE%8Ia%a6E2fG3F4%2G4F2GF2R17E4F2%22E30G3F8G2FGF2R3E%bIa%6Rd%13E2b",
    "FGFG2F6GFER%6Ia%6I14%1cE1b%2FGFG2F4GF5%4IaK2R3VE7%b9E2cG3F9GF2R%64A20B20IaK9%cE8%2E%2E8%E2",
    "%E18G6%G2%2F2GFEGEGFR3%9Ia%46E8%2E27G3F4%2F2G4FEREG%1bEFaE28F6GEF4R8F%8EF6G2F3E2eFdGF2R3ER5",
    "%dE49%7Ra%56FGF3GFG%58E21R%eIa%6E9%E25GF7%F6GFER5%aIaK13%3R2E1e%2F16%GF7GF2GF2%49E7%E2%E26",
    "F6%3F%F2%F7EF%8Ia%6E6%E2%E20G5%F2%G2FGFE%7Ia%6E29DE2%4Ia%f6E13F2G2R2%7F2EGEd%E22G2F5%3G2FG",
    "FRdIaF%55E%fK15V8T4V11%dRE39a%66J6f%R5%bEc4%a4cE61R2%dE430!10FE6Ff%aEf9b%5E247%1ab9E1eFcG3",
    "F3Ia%6c6E239%7E1f%Ia%4R2E4f%Ia%6E1e%2F5R%aE30F7R5V4D4RV%aIa%K7%E15%5E13%1b0D3E28D2R3Ia%c6A20",
    "B20K17R4%5A19%2B19%2cE4b%4FEG37%7F4Dd%40D2RDF%bG2D2J3%9E1cd6%29E20%61E73%21fdD4%D7%D2%E123",
    "%fE%1dE3%2E%eE4%8E18c%904E6b%5Ed%3E9%7Ea%2VF2R!4%f5cVf0IaV3%3V1b4%6V17%fV10S%fF2e%2F17%9V74",
    "%3cVf6%aV27%2V3cG2F3V3G6!8F8V2F7V1eF4V3d%15V42F3V%7aK14%cK14%cV57%9K19%87A1aB1aA1aB7%B12A1a",
    "B1aA%A2%2A%2A2%2A4%A8B4%B%B7%BbA1aB1aA2%A4%2A8%A7%B1aA2%A4%A5%A%3A7%B1aA1aB1aA1aB1aA1aB1aA1a",
    "B1aA1aB1aA1aB1c%2A19SB19SB6A19SB19SB6A19SB19SB6A19SB19SB6A19SB19SB6AB%2I32V200F37V4F32V8FVe",
    "FV2R5%fF5%Ff%450BaEB14%6B6%d5F7%F11%2F7%F2%F5%5D3e%21F%70E2d%3F7D7%2Ia%4EV%140E1eF%11E2cF4",
    "Ia%5T%1d0E1bDF4Ia%d6E1eF2EIa%4R%c0E1f%E3FE2FE7F2E5F%8ED%e0E7%E4%E2%Ef%Ec5%2K9F7%29A22B22F7",
    "D%4Ia%4R2%311K3bVK3TK4%4cK2dVKf%c2E4%E1b%E2%E%2E%Ea%E4%E%E%6E%4E%E%E%E3%E2%E%2E%E%E%E%E%E2",
    "%E%2E4%E7%E4%E4%E%Ea%E11%5E3%E5%E11%34S2%10eV2c%4V64%cVf%2Vf%Vf%V25%aKdVa1%38V1d%dV2c%4V9%7",
    "V2%eV6%9aVfbU5V2d9%3V11%3Vd%3Vda%6Vc%4V%fVc%4V38%8Va%6V28%8V1e%2Vc%4V2%eS9%27V158%8Ve%2Vd%3",
    "Vb%3V39%V%4V10%2Vc%4Va%7V93%V5cIaV%405Ea6e0%20E111e%2E168e%2E1d31%fE26e%9a2E21e%5e2E134b%5",
    "E212a%acb87!%1e!60%80Ff0%fe10$fffe%2$fffe%2"]

def categoryRuns : List (Nat × String) :=
  let cs := categoryTable.flatMap String.toList
  readRuns cs.length 0 cs

/-- The two letters that name the general category of a character. -/
def category (c : Char) : String :=
  match categoryRuns.find? fun run => c.toNat < run.1 with
  | some run => run.2
  | none => "Cn"

/-- Marks and signs that count as letters. -/
def otherAlphabetic : Ranges := Ranges.read
  ["345 363-36F 5B0-5BD 5BF 5C1-5C2 5C4-5C5 5C7 610-61A 64B-657 659-65F 670 6D6-6DC 6E1-6E4",
    "6E7-6E8 6ED 711 730-73F 7A6-7B0 816-817 81B-823 825-827 829-82C 897 8D4-8DF 8E3-8E9",
    "8F0-903 93A-93B 93E-94C 94E-94F 955-957 962-963 981-983 9BE-9C4 9C7-9C8 9CB-9CC 9D7",
    "9E2-9E3 A01-A03 A3E-A42 A47-A48 A4B-A4C A51 A70-A71 A75 A81-A83 ABE-AC5 AC7-AC9 ACB-ACC",
    "AE2-AE3 AFA-AFC B01-B03 B3E-B44 B47-B48 B4B-B4C B56-B57 B62-B63 B82 BBE-BC2 BC6-BC8",
    "BCA-BCC BD7 C00-C04 C3E-C44 C46-C48 C4A-C4C C55-C56 C62-C63 C81-C83 CBE-CC4 CC6-CC8",
    "CCA-CCC CD5-CD6 CE2-CE3 CF3 D00-D03 D3E-D44 D46-D48 D4A-D4C D57 D62-D63 D81-D83 DCF-DD4",
    "DD6 DD8-DDF DF2-DF3 E31 E34-E3A E4D EB1 EB4-EB9 EBB-EBC ECD F71-F83 F8D-F97 F99-FBC",
    "102B-1036 1038 103B-103E 1056-1059 105E-1060 1062-1064 1067-106D 1071-1074 1082-108D 108F",
    "109A-109D 1712-1713 1732-1733 1752-1753 1772-1773 17B6-17C8 1885-1886 18A9 1920-192B",
    "1930-1938 1A17-1A1B 1A55-1A5E 1A61-1A74 1ABF-1AC0 1ACC-1ACE 1B00-1B04 1B35-1B43 1B80-1B82",
    "1BA1-1BA9 1BAC-1BAD 1BE7-1BF1 1C24-1C36 1DD3-1DF4 24B6-24E9 2DE0-2DFF A674-A67B A69E-A69F",
    "A802 A80B A823-A827 A880-A881 A8B4-A8C3 A8C5 A8FF A926-A92A A947-A952 A980-A983 A9B4-A9BF",
    "A9E5 AA29-AA36 AA43 AA4C-AA4D AA7B-AA7D AAB0 AAB2-AAB4 AAB7-AAB8 AABE AAEB-AAEF AAF5",
    "ABE3-ABEA FB1E 10376-1037A 10A01-10A03 10A05-10A06 10A0C-10A0F 10D24-10D27 10D69",
    "10EAB-10EAC 10EFA-10EFC 11000-11002 11038-11045 11073-11074 11080-11082 110B0-110B8 110C2",
    "11100-11102 11127-11132 11145-11146 11180-11182 111B3-111BF 111CE-111CF 1122C-11234 11237",
    "1123E 11241 112DF-112E8 11300-11303 1133E-11344 11347-11348 1134B-1134C 11357 11362-11363",
    "113B8-113C0 113C2 113C5 113C7-113CA 113CC-113CD 11435-11441 11443-11445 114B0-114C1",
    "115AF-115B5 115B8-115BE 115DC-115DD 11630-1163E 11640 116AB-116B5 1171D-1172A 1182C-11838",
    "11930-11935 11937-11938 1193B-1193C 11940 11942 119D1-119D7 119DA-119DF 119E4 11A01-11A0A",
    "11A35-11A39 11A3B-11A3E 11A51-11A5B 11A8A-11A97 11B60-11B67 11C2F-11C36 11C38-11C3E",
    "11C92-11CA7 11CA9-11CB6 11D31-11D36 11D3A 11D3C-11D3D 11D3F-11D41 11D43 11D47 11D8A-11D8E",
    "11D90-11D91 11D93-11D96 11EF3-11EF6 11F00-11F01 11F03 11F34-11F3A 11F3E-11F40 1611E-1612E",
    "16F4F 16F51-16F87 16F8F-16F92 16FF0-16FF1 1BC9E 1E000-1E006 1E008-1E018 1E01B-1E021",
    "1E023-1E024 1E026-1E02A 1E08F 1E6E3 1E6E6 1E6EE-1E6EF 1E6F5 1E947 1F130-1F149 1F150-1F169",
    "1F170-1F189"]

/-- Signs that count as capital letters. -/
def otherUppercase : Ranges := Ranges.read
  ["2160-216F 24B6-24CF 1F130-1F149 1F150-1F169 1F170-1F189"]

/-- Signs that count as small letters. -/
def otherLowercase : Ranges := Ranges.read
  ["AA BA 2B0-2B8 2C0-2C1 2E0-2E4 345 37A 10FC 1D2C-1D6A 1D78 1D9B-1DBF 2071 207F 2090-209C",
    "2170-217F 24D0-24E9 2C7C-2C7D A69C-A69D A770 A7F1-A7F4 A7F8-A7F9 AB5C-AB5F AB69 10780",
    "10783-10785 10787-107B0 107B2-107BA 1E030-1E06D"]

/-- Whether a character is a letter: the property `Alphabetic`. -/
def isAlphabetic (c : Char) : Bool :=
  let k := category c
  startsWith k "L" || k == "Nl" || otherAlphabetic.holds c.toNat

def isNumeric (c : Char) : Bool := startsWith (category c) "N"

/-- Whether a character is a capital letter: the property `Uppercase`. -/
def isUppercase (c : Char) : Bool := category c == "Lu" || otherUppercase.holds c.toNat

/-- Whether a character is a small letter: the property `Lowercase`. -/
def isLowercase (c : Char) : Bool := category c == "Ll" || otherLowercase.holds c.toNat

/-- Whether a character can stand in a word: letters, marks, decimal digits, connecting punctuation
and the two joining controls. -/
def isWordCharacter (c : Char) : Bool :=
  let k := category c
  isAlphabetic c || startsWith k "M" || k == "Nd" || k == "Pc" || c.toNat == 0x200C
    || c.toNat == 0x200D

end FabricAudit.Text
