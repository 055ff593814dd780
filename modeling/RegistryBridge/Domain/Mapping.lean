import RegistryBridge.Text.Span
/-!
# How characters of a domain name are prepared

Before a domain name is compared or encoded, every character is kept, replaced, dropped or refused,
by the compatibility processing that Unicode prescribes for domain names. Characters that are not in
any table here are kept.

## Main definitions

* `Preparation`, `prepare`: what becomes of one character.
* `isKept`: whether a character stays as it is.
-/

namespace RegistryBridge.Domain

open Text

/-- What becomes of a character of a domain name. -/
inductive Preparation where
  | kept
  | replaced (image : List Nat)
  | refused
  deriving DecidableEq, Repr

/-- One character that several stand for: `FB00=66.66`. -/
def expansionOf (cs : List Char) : Nat × List Nat :=
  match pieces '=' cs with
  | [c, image] => (hexNat c, (pieces '.' image).map hexNat)
  | _ => (0, [])

/-- The entries of a table of expansions. -/
def expansions (table : String) : Array (Nat × List Nat) :=
  ((entries table).map expansionOf).toArray

/-- Characters outside ASCII that one other character stands for. -/
def replacements : Array Shift :=
  shifts
    "A0_80 AA_49 B2-B3_80 B5+307 B9_88 BA_4B C0-D6+20 D8-DE+20 100-12E/2+1 134-136/2+1
    139-13D/2+1 141-147/2+1 14A-176/2+1 178_79 179-17D/2+1 17F_10C 181+D2 182-184/2+1 186+CE
    187+1 189-18A+CD 18B+1 18E+4F 18F+CA 190+CB 191+1 193+CD 194+CF 196+D3 197+D1 198+1 19C+D3
    19D+D5 19F+D6 1A0-1A4/2+1 1A6+DA 1A7+1 1A9+DA 1AC+1 1AE+DA 1AF+1 1B1-1B2+D9 1B3-1B5/2+1
    1B7+DB 1B8+1 1BC+1 1CD-1DB/2+1 1DE-1EE/2+1 1F4+1 1F6_61 1F7_38 1F8-21E/2+1 220_82
    222-232/2+1 23A+2A2B 23B+1 23D_A3 23E+2A28 241+1 243_C3 244+45 245+47 246-24E/2+1 2B0_248
    2B1_4B 2B2_248 2B3_241 2B4_3B 2B5_3A 2B6_35 2B7_240 2B8_23F 2E0_7D 2E1_275 2E2_26F 2E3_26B
    2E4_4F 340-341_40 343_30 345+74 370-372/2+1 374_BB 376+1 37E_343 37F+74 386+26 387_2D0
    388-38A+25 38C+40 38E-38F+3F 391-3A1+20 3A3-3AB+20 3CF+8 3D0_1E 3D1_19 3D2_D 3D3_6 3D4_9
    3D5_F 3D6_16 3D8-3EE/2+1 3F0_36 3F1_30 3F2_2F 3F4_3C 3F5_40 3F7+1 3F9_36 3FA+1 3FD-3FF_82
    400-40F+50 410-42F+20 460-480/2+1 48A-4BE/2+1 4C0+F 4C1-4CD/2+1 4D0-52E/2+1 531-556+30 F0C_1
    10A0-10C5+1C60 10C7+1C60 10CD+1C60 10FC_20 13F8-13FD_8 1C80_184E 1C81_184D 1C82_1844
    1C83-1C84_1842 1C85_1843 1C86_183C 1C87_1824 1C88+89C3 1C89+1 1C90-1CBA_BC0 1CBD-1CBF_BC0
    1D2C_1CCB 1D2D_1C47 1D2E-1D30/2_1CCC 1D31_1CCC 1D32_1B55 1D33-1D3A_1CCC 1D3C_1CCD 1D3D_1B1A
    1D3E_1CCE 1D3F_1CCD 1D40-1D41_1CCC 1D42_1CCB 1D43_1CE2 1D44-1D45_1AF4 1D46_44 1D47_1CE5
    1D48-1D49_1CE4 1D4A_1AF1 1D4B-1D4C_1AF0 1D4D_1CE6 1D4F_1CE4 1D50_1CE3 1D51_1C06 1D52_1CE3
    1D53_1AFF 1D54-1D55_3E 1D56_1CE6 1D57-1D58_1CE3 1D59_3C 1D5A_1AEB 1D5B_1CE5 1D5C_37
    1D5D-1D5F_19AB 1D60-1D61_199A 1D62_1CF9 1D63_1CF1 1D64-1D65_1CEF 1D66-1D67_19B4 1D68_19A7
    1D69-1D6A_19A3 1D78_193B 1D9B_1B49 1D9C_1D39 1D9D_1B48 1D9E_1CAE 1D9F_1B43 1DA0_1D3A
    1DA1_1B42 1DA2_1B41 1DA3_1B3E 1DA4-1DA6_1B3C 1DA7_2C 1DA8_1B0B 1DA9_1B3C 1DAA_25 1DAB_1B0C
    1DAC_1B3B 1DAD_1B3D 1DAE-1DB1_1B3C 1DB2_1B3A 1DB3-1DB4_1B31 1DB5_1C0A 1DB6-1DB7_1B2D 1DB8_9C
    1DB9-1DBA_1B2E 1DBB_1D41 1DBC-1DBE_1B2C 1DBF_1A07 1E00-1E94/2+1 1E9B_3A 1E9E_1DBF
    1EA0-1EFE/2+1 1F08-1F0F_8 1F18-1F1D_8 1F28-1F2F_8 1F38-1F3F_8 1F48-1F4D_8 1F59-1F5F/2_8
    1F68-1F6F_8 1F71_1BC5 1F73_1BC6 1F75_1BC7 1F77_1BC8 1F79_1BAD 1F7B_1BAE 1F7D_1BAF
    1FB8-1FB9_8 1FBA_4A 1FBB_1C0F 1FBE_1C05 1FC8_56 1FC9_1C1C 1FCA_56 1FCB_1C1D 1FD3_1C43
    1FD8-1FD9_8 1FDA_64 1FDB_1C2C 1FE3_1C33 1FE8-1FE9_8 1FEA_70 1FEB_1C1E 1FEC_7 1FEF_1F8F
    1FF8_80 1FF9_1C2D 1FFA_7E 1FFB_1C2D 2000_1FE0 2001_1FE1 2002_1FE2 2003_1FE3 2004_1FE4
    2005_1FE5 2006_1FE6 2007_1FE7 2008_1FE8 2009_1FE9 200A_1FEA 2011_1 202F_200F 205F_203F
    2070_2040 2071_2008 2074-2079_2040 207A_204F 207B+197 207C_203F 207D-207E_2055 207F_2011
    2080-2089_2050 208A_205F 208B+187 208C_204F 208D-208E_2065 2090_202F 2091_202C 2092_2023
    2093_201B 2094_1E3B 2095_202D 2096-2099_202B 209A_202A 209B-209C_2028 2102_209F 2107_1EAC
    210A-210B_20A3 210C_20A4 210D_20A5 210E_20A6 210F_1FE8 2110_20A7 2111_20A8 2112_20A6
    2113-2115/2_20A7 2119-211B_20A9 211C_20AA 211D_20AB 2124_20AA 2126_1D5D 2128_20AE 212A_20BF
    212B_2046 212C-212D_20CA 212F_20CA 2130-2131_20CB 2132+1C 2133_20C6 2134_20C5 2135-2138_1B65
    2139_20D0 213C_1D7C 213D_1D8A 213E_1D8B 213F_1D7F 2140+D1 2145_20E1 2146-2147_20E2
    2148-2149_20DF 2160_20F7 2164_20EE 2169_20F1 216C_2100 216D-216E_210A 216F_2102 2170_2107
    2174_20FE 2179_2101 217C_2110 217D-217E_211A 217F_2112 2183+1 2329-232A+CDF 2460-2468_242F
    24B6-24CF_2455 24D0-24E9_246F 24EA_24BA 2C00-2C2F+30 2C60+1 2C62_29F7 2C63_EE6 2C64_29E7
    2C67-2C6B/2+1 2C6D_2A1C 2C6E_29FD 2C6F_2A1F 2C70_2A1E 2C72+1 2C75+1 2C7C_2C12 2C7D_2C07
    2C7E-2C7F_2A3F 2C80-2CE2/2+1 2CEB-2CED/2+1 2CF2+1 2D6F_E 2E9F+3D2E 2EF3+70AC 2F00+1F00
    2F01+1F27 2F02+1F34 2F03+1F3C 2F04+1F55 2F05+1F80 2F06+1F86 2F07+1F99 2F08+1FB2 2F09+2236
    2F0A+225B 2F0B+2260 2F0C+2276 2F0D+2289 2F0E+229D 2F0F+22D1 2F10+22E5 2F11+22EF 2F12+2389
    2F13+23E6 2F14+2401 2F15+2405 2F16+2422 2F17+242A 2F18+2444 2F19+2450 2F1A+2468 2F1B+249B
    2F1C+24AC 2F1D+24C6 2F1E+27B9 2F1F+2800 2F20+29CB 2F21+29E1 2F22+29E8 2F23+29F2 2F24+2A03
    2F25+2A4E 2F26+2C2A 2F27+2C59 2F28+2CD0 2F29+2CE6 2F2A+2CF8 2F2B+2D0D 2F2C+2D42 2F2D+2D44
    2F2E+2EAD 2F2F+2EB6 2F30+2EC1 2F31+2ECD 2F32+2F40 2F33+2F47 2F34+2F4B 2F35+2FBF 2F36+2FC8
    2F37+2FD4 2F38+2FDB 2F39+3017 2F3A+3027 2F3B+3038 2F3C+3087 2F3D+32CB 2F3E+32F8 2F3F+330C
    2F40+35EF 2F41+35F3 2F42+3645 2F43+3654 2F44+3660 2F45+3674 2F46+369A 2F47+369E 2F48+37A8
    2F49+37BF 2F4A+37DE 2F4B+3BD5 2F4C+3C16 2F4D+3C2C 2F4E+3C65 2F4F+3C7C 2F50+3C84 2F51+3C8A
    2F52+3CBD 2F53+3CC1 2F54+3CE0 2F55+4116 2F56+42D4 2F57+42DF 2F58+42E3 2F59+42E6 2F5A+42ED
    2F5B+42FE 2F5C+42FF 2F5D+434F 2F5E+4426 2F5F+442A 2F60+457C 2F61+4585 2F62+45B6 2F63+45BC
    2F64+45C4 2F65+45CB 2F66+4625 2F67+462B 2F68+470E 2F69+4714 2F6A+4744 2F6B+4754 2F6C+4782
    2F6D+486E 2F6E+4874 2F6F+4884 2F70+49CA 2F71+4A47 2F72+4A4C 2F73+4B01 2F74+4B57 2F75+4B84
    2F76+4CFD 2F77+4D81 2F78+4FBE 2F79+4FD8 2F7A+5010 2F7B+5042 2F7C+5085 2F7D+508F 2F7E+5094
    2F7F+50B4 2F80+50FF 2F81+5108 2F82+5261 2F83+5267 2F84+526F 2F85+5277 2F86+5286 2F87+5294
    2F88+5297 2F89+52E5 2F8A+52E8 2F8B+52ED 2F8C+56C1 2F8D+56DE 2F8E+58B2 2F8F+58BD 2F90+58D3
    2F91+59ED 2F92+59F9 2F93+5A3F 2F94+5A6C 2F95+5CA2 2F96+5CB0 2F97+5CBE 2F98+5CE0 2F99+5D04
    2F9A+5DCA 2F9B+5DD5 2F9C+5E17 2F9D+5F0E 2F9E+5F2C 2F9F+5FFC 2FA0+6010 2FA1+6014 2FA2+60EF
    2FA3+61A6 2FA4+6222 2FA5+6227 2FA6+622B 2FA7+65D0 2FA8+65D8 2FA9+6673 2FAA+670C 2FAB+670E
    2FAC+673C 2FAD+67A4 2FAE+67B0 2FAF+67B3 2FB0+67B9 2FB1+681A 2FB2+683B 2FB3+6840 2FB4+684D
    2FB5+68F3 2FB6+6925 2FB7+6928 2FB8+69DE 2FB9+69E0 2FBA+69F2 2FBB+6AED 2FBC+6B1C 2FBD+6B22
    2FBE+6B67 2FBF+6B70 2FC0+6B72 2FC1+6B7B 2FC2+6B98 2FC3+6D22 2FC4+6EB1 2FC5+6EBA 2FC6+6EDF
    2FC7+6EF4 2FC8+6EFB 2FC9+6F04 2FCA+6F07 2FCB+6F2E 2FCC+6F31 2FCD+6F41 2FCE+6F45 2FCF+6F51
    2FD0+6F6B 2FD1+6F79 2FD2+6F80 2FD3+6FBA 2FD4+6FC8 2FD5+6FCB 3000_2FE0 3002_2FD4 3036_24
    3038+2309 3039-303A+230B 3131-3132_2031 3133_1F89 3134_2032 3135-3136_1F89 3137-3139_2034
    313A-313F_1F8A 3140_2026 3141-3143_203B 3144_2023 3145-314E_203C 314F-3163_1FEE
    3165-3166_2051 3167-3168_1FA0 3169_1F9D 316A_1F9C 316B_1F98 316C_1F95 316D_1F94 316E_2052
    316F_1F92 3170_1F91 3171-3172_2054 3173_2053 3174-3175_2052 3176_204F 3177_204E
    3178-317C_204D 317D_204B 317E_2048 317F_203F 3180_2039 3181_2035 3182-3183_1F91
    3184-3186_202D 3187-3188_2003 3189_2001 318A-318B_1FF9 318C_1FF8 318D_1FEF 318E_1FED
    3192+1C6E 3193+1CF9 3194+1C75 3195+2546 3196+1C74 3197+1C96 3198+1C73 3199+4399 319A+1CBF
    319B+1C7E 319C+1C65 319D+278C 319E+2592 319F+1D1B 3244+230B 3245+2C37 3246+3341 3247+4948
    3260_2160 3261-3262_215F 3263-3265_215E 3266_215D 3267-3268_215C 3269-326D_215B 326E+7992
    326F+7E29 3270+8074 3271+850B 3272+8756" ++
  shifts
    "3273+89A1 3274+8E38 3275+92CF 3276+951A 3277+99B1 3278+9BFC 3279+9E47 327A+A092 327B+A2DD
    327E+9432 3280+1B80 3281+1C0B 3282+1B87 3283+2458 3284+1C10 3285+1EE8 3286+1B7D 3287+1EE4
    3288+1BD5 3289+20B8 328A+347E 328B+3DE0 328C+39A8 328D+349B 328E+5F43 328F+2490 3290+3355
    3291+3599 3292+3477 3293+46AB 3294+2179 3295+3FE4 3296+5A0B 3297+46C6 3298+201C 3299+473F
    329A+429D 329B+26D8 329C+5DCD 329D+1E8D 329E+20D2 329F+3A49 32A0+6565 32A1+1C70 32A2+1EF7
    32A3+38C0 32A4+1B66 32A5+1B88 32A6+1B65 32A7+2B3F 32A8+214B 32A9+2092 32AA+28ED 32AB+28BB
    32AC+4437 32AD+1C54 32AE+5A19 32AF+20A5 32B0+266C 32D0_22E 32D1_22D 32D2_22C 32D3_22B
    32D4-32D5_22A 32D6_229 32D7_228 32D8_227 32D9_226 32DA_225 32DB_224 32DC_223 32DD_222
    32DE_221 32DF_220 32E0_21F 32E1_21D 32E2_21C 32E3_21B 32E4-32E9_21A 32EA_218 32EB_216
    32EC_214 32ED_212 32EE-32F2_210 32F3_20F 32F4_20E 32F5-32FA_20D 32FB-32FE_20C A640-A66C/2+1
    A680-A69A/2+1 A69C_A252 A69D_A251 A722-A72E/2+1 A732-A76E/2+1 A770_1 A779-A77B/2+1 A77D_8A04
    A77E-A786/2+1 A78B+1 A78D_A528 A790-A792/2+1 A796-A7A8/2+1 A7AA_A544 A7AB_A54F A7AC_A54B
    A7AD_A541 A7AE_A544 A7B0_A512 A7B1_A52A A7B2_A515 A7B3+3A0 A7B4-A7C2/2+1 A7C4_30 A7C5_A543
    A7C6_8A38 A7C7-A7C9/2+1 A7CB_A567 A7CC-A7DA/2+1 A7DC_A641 A7F1_A77E A7F2_A78F A7F3_A78D
    A7F4_A783 A7F5+1 A7F8_A6D1 A7F9_A6A6 AB5C_435 AB5D_26 AB5E_A8F3 AB5F_D AB69_A8DC
    AB70-ABBF_97D0 F900_6CB8 F901_920D F902_6A38 F903_6C3B F904_8A33 F905_AAD3 F906_A521
    F907_596B F908_596C F909_9FB8 F90A_6739 F90B_A384 F90C_9FC4 F90D_9717 F90E_82A5 F90F_798A
    F910_72D1 F911_7157 F912_701A F913_6884 F914_8F12 F915_8BFA F916_883D F917_8539 F918_74DB
    F919_67AF F91A_5F29 F91B_AA99 F91C_A5A7 F91D_8E19 F91E_8703 F91F_72F2 F920_5B02 F921_9BD1
    F922_8937 F923_7356 F924_6FC0 F925_965C F926_774E F927_7108 F928_9A5E F929_9212 F92A_8BC0
    F92B_862F F92C_685E F92D_A9A7 F92E_A777 F92F_A651 F930_946C F931_8E5E F932_8722 F933_824C
    F934_7933 F935_732F F936_72DA F937_6B48 F938_6206 F939_5DCA F93A_5B40 F93B_80AF F93C_7FBD
    F93D_7B9D F93E_7575 F93F_663B F940_5AC1 F941_6E6B F942_A063 F943_9A3F F944_7CE4 F945_78C7
    F946_86E4 F947_807D F948_6C86 F949_6252 F94A_A072 F94B_9CE9 F94C_8F39 F94D_8B73 F94E_8A3F
    F94F_7C20 F950_7B19 F951_6306 F952_A680 F953_78C8 F954_A778 F955_A789 F956_7F3A F957_7B99
    F958_7567 F959_62E4 F95A_6DDA F95B_968C F95C_8F5A F95D_6E5F F95E_AB25 F95F_9D78 F960_994E
    F961_85DA F962_83F2 F963_A64C F964_8069 F965_A9A6 F966_99BD F967_AB5A F968_8C9C F969_93F1
    F96A_7C48 F96B_A5A8 F96C_A10E F96D_826C F96E_7525 F96F_6EC5 F970_8DB6 F971_69C1 F972_8CEA
    F973_9675 F974_768F F975_95D5 F976_8411 F977_AAC9 F978_A80F F979_A7B0 F97A_90F9 F97B_7C94
    F97C_770D F97D_6EAB F97E_67AF F97F_A68A F980_A53E F981_A00E F982_9A96 F983_93BE F984_8986
    F985_805B F986_63D9 F987_5F1D F988_5AF1 F989_5ABB F98A_A6EF F98B_92C5 F98C_8E15 F98D_6A2B
    F98E_9B1A F98F_97FF F990_9790 F991_94F7 F992_8A6F F993_884A F994_850B F995_7FCB F996_7BA2
    F997_7928 F998_6A72 F999_74AB F99A_6977 F99B_6651 F99C_A785 F99D_A6FA F99E_A4E1 F99F_88D7
    F9A0_70DE F9A1_6EF7 F9A2_9AD9 F9A3_99AE F9A4_9629 F9A5_8DF7 F9A6_7D68 F9A7_8632 F9A8_AAC4
    F9A9_A2B0 F9AA_9DC3 F9AB_9BF1 F9AC_9990 F9AD_85FB F9AE_8545 F9AF_7A15 F9B0_796A F9B1_677D
    F9B2_62BC F9B3_626B F9B4_619C F9B5_AA2A F9B6_8008 F9B7_6803 F9B8_6300 F9B9_98D8 F9BA_AB34
    F9BB_A8E1 F9BC_9DCE F9BD_9D7E F9BE_9425 F9BF_8FBD F9C0_87F2 F9C1_837F F9C2_74C6 F9C3_6947
    F9C4_5A37 F9C5_933D F9C6_6398 F9C7_A73E F9C8_924D F9C9_91D6 F9CA_8C89 F9CB_8B2F F9CC_85C3
    F9CD_8474 F9CE_8163 F9CF_7CBF F9D0_6172 F9D1_A864 F9D2_97A4 F9D3_635B F9D4_A9A9 F9D5_9CBC
    F9D6_8BEC F9D7_6AAD F9D8_9A4D F9D9_9895 F9DA_91C3 F9DB_8654 F9DC_6356 F9DD_A7B4 F9DE_A5CF
    F9DF_9D7A F9E0_93CD F9E1_9293 F9E2_913A F9E3_8CFE F9E4_85DE F9E5_8403 F9E6_7A6D F9E7_7118
    F9E8_7107 F9E9_681D F9EA_6308 F9EB_A6AC F9EC_8B32 F9ED_A5D0 F9EE_881E F9EF_8557 F9F0_73F6
    F9F1_634E F9F2_5D9B F9F3_5B54 F9F4_925D F9F5_8C2A F9F6_780E F9F7_7F2C F9F8_7ED8 F9F9_7D67
    F9FA_873A F9FB_8962 F9FC_6EA4 F9FD_AB3D F9FE_76C8 F9FF_A7C5 FA00_A7F9 FA01_9B5B FA02_972F
    FA03_7D2D FA04_9E7F FA05_8CE7 FA06_9352 FA07_6ACC FA08_71BC FA09_63BC FA0A_707F FA0B_9B38
    FA0C_A8CC FA0D_A44D FA10_A1B6 FA12_939E FA15_A837 FA16_86EC FA17_834D FA18_80DC FA19_80BB
    FA1A_80B5 FA1B_808C FA1C_62C6 FA1D_7D5F FA1E_7A61 FA20_740E FA22_6F2A FA25_69ED FA26_6929
    FA2A_613B FA2B_612F FA2C_6104 FA2D_5C79 FA2E_6950 FA2F_6378 FA30_AA82 FA31_A94A FA32_A8E5
    FA33_A76A FA34_A750 FA35_A6E4 FA36_A499 FA37_A431 FA38_A3D0 FA39_A1F9 FA3A_A192 FA3B_9DD7
    FA3C_9DCE FA3D_99A9 FA3E_98D6 FA3F_98B1 FA40_984E FA41_94F2 FA42_9460 FA43_93B2 FA44_91BF
    FA45_8CCE FA46_8C2C FA47_8B25 FA48_88DA FA49_881E FA4A_8628 FA4B_81BA FA4C_810E FA4D_8104
    FA4E_8106 FA4F_80FF FA50_80FA FA51_80F4 FA52-FA53_80C5 FA54_8014 FA55_7FD4 FA56_7E96
    FA57_7C63 FA58_7C4F FA59_7C18 FA5A_7AE8 FA5B_7A56 FA5C_786F FA5D_77E4 FA5E_77E5 FA5F_7608
    FA60_7150 FA61_70CB FA62_6F61 FA63_6F2A FA64_6D91 FA65_6D5D FA66_6AB0 FA67_6A2F FA68_6385
    FA69_626A FA6A_622F FA6B_99F6 FA6C+14882 FA6D_7855 FA70_AC4A FA71_A8BC FA72_A90A FA73_AAF3
    FA74_A92F FA75_A8F5 FA76_A7AF FA77_A77D FA78_A4DB FA79_A524 FA7A_A4E1 FA7B_A499 FA7C_A222
    FA7D_A1CA FA7E_A13A FA7F_A12B FA80_A01E FA81_9F59 FA82_9BB0 FA83_9BAA FA84_9B1B FA85_9AD8
    FA86_99AE FA87_9939 FA88_9980 FA89_98FB FA8A_992A FA8B_9899 FA8C_9858 FA8D_96C9 FA8E_9672
    FA8F_963D FA90_953A FA91_941D FA92_937B FA93_9378 FA94_933E FA95_8F1C FA96_8EDC FA97_8D56
    FA98_8BBD FA99_8BCE FA9A_8B78 FA9B_8A7D FA9C_892E FA9D_82F6 FA9E_8869 FA9F_87F0 FAA0_8776
    FAA1_8630 FAA2_859C FAA3_8568 FAA4_8487 FAA5_8486 FAA6_83DC FAA7_83CC FAA8_83B4 FAA9_835F
    FAAA_836A FAAB_81DF FAAC_7FFB FAAD_7EED FAAE_7E33 FAAF_7D54 FAB0_7CBC FAB1_7B73 FAB2_7AAD
    FAB3_7761 FAB4_76C5 FAB5_733C FAB6_7175 FAB7_7131 FAB8_7122 FAB9_6FFA FABA_6FC2 FABB_6FF0
    FABC_6FBB FABD_6FBF FABE_6FD1 FABF_6F86 FAC0_6F36 FAC1_6DB9 FAC2_6B8A FAC3_6A51 FAC4_692B
    FAC5_684F FAC6_644A FAC7_63E4 FAC8_6372 FAC9_62EE FACA_62CB FACB_62C0 FACC_6291 FACD_5FBB
    FACE_5B32 FACF+12D7B FAD0+12D74 FAD1+13904 FAD2_BF35 FAD3_BABB FAD4_BA9B FAD5+15774
    FAD6+161FA FAD7+183FC FAD8_5B95 FAD9_5B4B FB20_F53E FB21_F551 FB22-FB23_F54F FB24-FB26_F549
    FB27_F53F FB28_F53E FB29_FAFE FB50_F4DF FB51_F4E0 FB52_F4D7 FB53_F4D8 FB54_F4D9 FB55_F4DA
    FB56_F4D8 FB57_F4D9 FB58_F4DA FB59_F4DB FB5A_F4DA FB5B_F4DB FB5C_F4DC FB5D_F4DD FB5E_F4E4
    FB5F_F4E5 FB60_F4E6 FB61_F4E7 FB62_F4E3 FB63_F4E4 FB64_F4E5 FB65_F4E6 FB66_F4ED FB67_F4EE
    FB68_F4EF FB69_F4F0 FB6A_F4C6 FB6B_F4C7 FB6C_F4C8 FB6D_F4C9 FB6E_F4C8 FB6F_F4C9 FB70_F4CA
    FB71_F4CB FB72_F4EE FB73_F4EF FB74_F4F0 FB75_F4F1 FB76_F4F3 FB77_F4F4 FB78_F4F5 FB79_F4F6
    FB7A_F4F4 FB7B_F4F5 FB7C_F4F6 FB7D-FB7E_F4F7" ++
  shifts
    "FB7F_F4F8 FB80_F4F9 FB81_F4FA FB82_F4F5 FB83_F4F6 FB84_F4F8 FB85_F4F9 FB86_F4F8 FB87_F4F9
    FB88_F500 FB89_F501 FB8A_F4F2 FB8B_F4F3 FB8C_F4FB FB8D_F4FC FB8E_F4E5 FB8F_F4E6 FB90_F4E7
    FB91_F4E8 FB92_F4E3 FB93_F4E4 FB94_F4E5 FB95_F4E6 FB96_F4E3 FB97_F4E4 FB98_F4E5 FB99_F4E6
    FB9A_F4E9 FB9B_F4EA FB9C_F4EB FB9D_F4EC FB9E_F4E4 FB9F-FBA0_F4E5 FBA1_F4E6 FBA2_F4E7
    FBA3_F4E8 FBA4_F4E4 FBA5-FBA6_F4E5 FBA7_F4E6 FBA8_F4E7 FBA9_F4E8 FBAA_F4EC FBAB_F4ED
    FBAC_F4EE FBAD_F4EF FBAE_F4DC FBAF-FBB0_F4DD FBB1_F4DE FBD3_F526 FBD4_F527 FBD5_F528
    FBD6_F529 FBD7_F510 FBD8_F511 FBD9_F513 FBDA_F514 FBDB_F513 FBDC_F514 FBDE_F513 FBDF_F514
    FBE0_F51B FBE1_F51C FBE2_F519 FBE3_F51A FBE4_F514 FBE5_F515 FBE6_F516 FBE7_F517 FBE8_F59F
    FBE9_F5A0 FBFC_F530 FBFD_F531 FBFE_F532 FBFF_F533 FE10_FDE4 FE11_CE10 FE13-FE14_FDD9
    FE15_FDF4 FE16_FDD7 FE17-FE18_CE01 FE31_DE1D FE32_DE1F FE33_FDD4 FE34_FDD5 FE35-FE36_FE0D
    FE37_FDBC FE38_FDBB FE39-FE3A_CE25 FE3B-FE3C_CE2B FE3D-FE3E_CE33 FE3F-FE40_CE37
    FE41-FE44_CE35 FE47_FDEC FE48_FDEB FE4D_FDEE FE4E_FDEF FE4F_FDF0 FE50_FE24 FE51_CE50
    FE54_FE19 FE55_FE1B FE56_FE17 FE57_FE36 FE58_DE44 FE59-FE5A_FE31 FE5B_FDE0 FE5C_FDDF
    FE5D-FE5E_CE49 FE5F_FE3C FE60_FE3A FE61-FE62_FE37 FE63_FE36 FE64_FE28 FE65_FE27 FE66_FE29
    FE68_FE0C FE69-FE6A_FE45 FE6B_FE2B FE80-FE81_F85F FE82-FE83_F860 FE84-FE85_F861
    FE86-FE87_F862 FE88-FE89_F863 FE8A_F864 FE8B_F865 FE8C-FE8D_F866 FE8E-FE8F_F867 FE90_F868
    FE91_F869 FE92-FE93_F86A FE94-FE95_F86B FE96_F86C FE97_F86D FE98-FE99_F86E FE9A_F86F
    FE9B_F870 FE9C-FE9D_F871 FE9E_F872 FE9F_F873 FEA0-FEA1_F874 FEA2_F875 FEA3_F876
    FEA4-FEA5_F877 FEA6_F878 FEA7_F879 FEA8-FEA9_F87A FEAA-FEAB_F87B FEAC-FEAD_F87C
    FEAE-FEAF_F87D FEB0-FEB1_F87E FEB2_F87F FEB3_F880 FEB4-FEB5_F881 FEB6_F882 FEB7_F883
    FEB8-FEB9_F884 FEBA_F885 FEBB_F886 FEBC-FEBD_F887 FEBE_F888 FEBF_F889 FEC0-FEC1_F88A
    FEC2_F88B FEC3_F88C FEC4-FEC5_F88D FEC6_F88E FEC7_F88F FEC8-FEC9_F890 FECA_F891 FECB_F892
    FECC-FECD_F893 FECE_F894 FECF_F895 FED0_F896 FED1_F890 FED2_F891 FED3_F892 FED4-FED5_F893
    FED6_F894 FED7_F895 FED8-FED9_F896 FEDA_F897 FEDB_F898 FEDC-FEDD_F899 FEDE_F89A FEDF_F89B
    FEE0-FEE1_F89C FEE2_F89D FEE3_F89E FEE4-FEE5_F89F FEE6_F8A0 FEE7_F8A1 FEE8-FEE9_F8A2
    FEEA_F8A3 FEEB_F8A4 FEEC-FEED_F8A5 FEEE-FEEF_F8A6 FEF0-FEF1_F8A7 FEF2_F8A8 FEF3_F8A9
    FEF4_F8AA FF01-FF20_FEE0 FF21-FF3A_FEC0 FF3B-FF5E_FEE0 FF5F-FF60_D5DA FF61_FF33
    FF62-FF63_CF56 FF64_CF63 FF65_CE6A FF66_CE74 FF67_CEC6 FF68_CEC5 FF69_CEC4 FF6A_CEC3
    FF6B_CEC2 FF6C_CE89 FF6D_CE88 FF6E_CE87 FF6F_CEAC FF70_CE74 FF71_CECF FF72_CECE FF73_CECD
    FF74_CECC FF75-FF76_CECB FF77_CECA FF78_CEC9 FF79_CEC8 FF7A_CEC7 FF7B_CEC6 FF7C_CEC5
    FF7D_CEC4 FF7E_CEC3 FF7F_CEC2 FF80_CEC1 FF81_CEC0 FF82_CEBE FF83_CEBD FF84_CEBC
    FF85-FF8A_CEBB FF8B_CEB9 FF8C_CEB7 FF8D_CEB5 FF8E_CEB3 FF8F-FF93_CEB1 FF94_CEB0 FF95_CEAF
    FF96-FF9B_CEAE FF9C_CEAD FF9D_CEAA FF9E-FF9F_CF05 FFA1-FFA2_EEA1 FFA3_EDF9 FFA4_EEA2
    FFA5-FFA6_EDF9 FFA7-FFA9_EEA4 FFAA-FFAF_EDFA FFB0_EE96 FFB1-FFB3_EEAB FFB4_EE93
    FFB5-FFBE_EEAC FFC2-FFC7_EE61 FFCA-FFCF_EE63 FFD2-FFD7_EE65 FFDA-FFDC_EE67 FFE0-FFE1_FF3E
    FFE2_FF36 FFE4_FF3E FFE5_FF40 FFE6_DF3D FFE8_DAE6 FFE9-FFEC_DE59 FFED_DA4D FFEE_DA23
    10400-10427+28 104B0-104D3+28 10570-1057A+27 1057C-1058A+27 1058C-10592+27 10594-10595+27
    10781-10782_104B1 10783_1069D 10784_104EB 10785_10532 10787_104E4 10788_5C22 10789_104E4
    1078A_104E6 1078B-1078C_10535 1078D_E9FC 1078E_10536 1078F_10531 10790_104E7 10791_1052D
    10792_10530 10793_10533 10794_104F9 10795_1066E 10796_104FA 10797_10530 10798_10514
    10799-1079A_104EF 1079B_1052F 1079C+D768 1079D_600F 1079E_10530 1079F+D766 107A0_10512
    107A1+D765 107A2_106AA 107A3-107A4_1052D 107A5_10734 107A6_1052C 107A7+D761
    107A8-107A9_1052B 107AA_1052A 107AB_10503 107AC_10506 107AD_5C46 107AE_10507 107AF_10527
    107B0_DB3F 107B2_10523 107B3-107B4_10512 107B5_1051D 107B6-107B8_105F6 107B9+D751 107BA+D764
    10C80-10CB2+40 10D50-10D65+20 118A0-118BF+20 16E40-16E5F+20 16EA0-16EB8+1B 1CCD6-1CCEF_1CC75
    1CCF0-1CCF9_1CCC0 1D400-1D419_1D39F 1D41A-1D433_1D3B9 1D434-1D44D_1D3D3 1D44E-1D454_1D3ED
    1D456-1D467_1D3ED 1D468-1D481_1D407 1D482-1D49B_1D421 1D49C-1D49E/2_1D43B 1D49F_1D43B
    1D4A2_1D43B 1D4A5-1D4A6_1D43B 1D4A9-1D4AC_1D43B 1D4AE-1D4B5_1D43B 1D4B6-1D4B9_1D455
    1D4BB-1D4BD/2_1D455 1D4BE-1D4C3_1D455 1D4C5-1D4CF_1D455 1D4D0-1D4E9_1D46F 1D4EA-1D503_1D489
    1D504-1D505_1D4A3 1D507-1D50A_1D4A3 1D50D-1D514_1D4A3 1D516-1D51C_1D4A3 1D51E-1D537_1D4BD
    1D538-1D539_1D4D7 1D53B-1D53E_1D4D7 1D540-1D544_1D4D7 1D546_1D4D7 1D54A-1D550_1D4D7
    1D552-1D56B_1D4F1 1D56C-1D585_1D50B 1D586-1D59F_1D525 1D5A0-1D5B9_1D53F 1D5BA-1D5D3_1D559
    1D5D4-1D5ED_1D573 1D5EE-1D607_1D58D 1D608-1D621_1D5A7 1D622-1D63B_1D5C1 1D63C-1D655_1D5DB
    1D656-1D66F_1D5F5 1D670-1D689_1D60F 1D68A-1D6A3_1D629 1D6A4_1D573 1D6A5_1D46E
    1D6A8-1D6B8_1D2F7 1D6B9_1D301 1D6BA-1D6C0_1D2F7 1D6C1_1B4BA 1D6C2-1D6D2_1D311 1D6D3_1D310
    1D6D4-1D6DA_1D311 1D6DB_1B4D9 1D6DC_1D327 1D6DD_1D325 1D6DE_1D324 1D6DF_1D319 1D6E0_1D31F
    1D6E1_1D321 1D6E2-1D6F2_1D331 1D6F3_1D33B 1D6F4-1D6FA_1D331 1D6FB_1B4F4 1D6FC-1D70C_1D34B
    1D70D_1D34A 1D70E-1D714_1D34B 1D715_1B513 1D716_1D361 1D717_1D35F 1D718_1D35E 1D719_1D353
    1D71A_1D359 1D71B_1D35B 1D71C-1D72C_1D36B 1D72D_1D375 1D72E-1D734_1D36B 1D735_1B52E
    1D736-1D746_1D385 1D747_1D384 1D748-1D74E_1D385 1D74F_1B54D 1D750_1D39B 1D751_1D399
    1D752_1D398 1D753_1D38D 1D754_1D393 1D755_1D395 1D756-1D766_1D3A5 1D767_1D3AF
    1D768-1D76E_1D3A5 1D76F_1B568 1D770-1D780_1D3BF 1D781_1D3BE 1D782-1D788_1D3BF 1D789_1B587
    1D78A_1D3D5 1D78B_1D3D3 1D78C_1D3D2 1D78D_1D3C7 1D78E_1D3CD 1D78F_1D3CF 1D790-1D7A0_1D3DF
    1D7A1_1D3E9 1D7A2-1D7A8_1D3DF 1D7A9_1B5A2 1D7AA-1D7BA_1D3F9 1D7BB_1D3F8 1D7BC-1D7C2_1D3F9
    1D7C3_1B5C1 1D7C4_1D40F 1D7C5_1D40D 1D7C6_1D40C 1D7C7_1D401 1D7C8_1D407 1D7C9_1D409
    1D7CA_1D3ED 1D7CB_1D3EE 1D7CE-1D7D7_1D79E 1D7D8-1D7E1_1D7A8 1D7E2-1D7EB_1D7B2
    1D7EC-1D7F5_1D7BC 1D7F6-1D7FF_1D7C6 1E030-1E038_1DC00 1E039-1E03B_1DBFF 1E03C-1E046_1DBFE
    1E047_1DBFC 1E048-1E049_1DBFB 1E04A_139C1 1E04B_1DB72 1E04C_1DBF6 1E04D_1DBF5 1E04E_1DB65
    1E04F_1DBA0 1E050_1DB81 1E051-1E059_1DC21 1E05A-1E05B_1DC20 1E05C-1E05D_1DC1E 1E05E_1DC1D
    1E05F-1E064_1DC1C 1E065-1E066_1DC1B 1E067_1DBD6 1E068_1DC12 1E069_1DC14 1E06A_1DC0B
    1E06B_1DBC0 1E06C_13A1B 1E06D_1DBBC 1E900-1E921+22 1EE00-1EE01_1E7D9 1EE02_1E7D6 1EE03_1E7D4
    1EE05_1E7BD 1EE06_1E7D4 1EE07_1E7DA 1EE08_1E7D1 1EE09_1E7BF 1EE0A-1EE0D_1E7C7 1EE0E_1E7DB
    1EE0F_1E7D6 1EE10_1E7CF 1EE11_1E7DC 1EE12_1E7D0 1EE13_1E7E2 1EE14_1E7E0 1EE15-1EE16_1E7EB
    1EE17_1E7E9 1EE18_1E7E8 1EE19_1E7E3 1EE1A_1E7E2 1EE1B_1E7E1 1EE1C_1E7AE 1EE1D_1E763
    1EE1E_1E77D 1EE1F_1E7B0 1EE21_1E7F9 1EE22_1E7F6 1EE24_1E7DD 1EE27_1E7FA" ++
  shifts
    "1EE29_1E7DF 1EE2A-1EE2D_1E7E7 1EE2E_1E7FB 1EE2F_1E7F6 1EE30_1E7EF 1EE31_1E7FC 1EE32_1E7F0
    1EE34_1E800 1EE35-1EE36_1E80B 1EE37_1E809 1EE39_1E803 1EE3B_1E801 1EE42_1E816 1EE47_1E81A
    1EE49_1E7FF 1EE4B-1EE4D/2_1E807 1EE4E_1E81B 1EE4F_1E816 1EE51_1E81C 1EE52_1E810 1EE54_1E820
    1EE57_1E829 1EE59_1E823 1EE5B_1E821 1EE5D_1E7A3 1EE5F_1E7F0 1EE61_1E839 1EE62_1E836
    1EE64_1E81D 1EE67_1E83A 1EE68_1E831 1EE69_1E81F 1EE6A-1EE6C/2_1E827 1EE6D_1E827 1EE6E_1E83B
    1EE6F_1E836 1EE70_1E82F 1EE71_1E83C 1EE72_1E830 1EE74_1E840 1EE75-1EE76_1E84B 1EE77_1E849
    1EE79_1E843 1EE7A_1E842 1EE7B_1E841 1EE7C_1E80E 1EE7E_1E7DD 1EE80-1EE81_1E859 1EE82_1E856
    1EE83_1E854 1EE84-1EE85_1E83D 1EE86_1E854 1EE87_1E85A 1EE88_1E851 1EE89_1E83F
    1EE8B-1EE8D_1E847 1EE8E_1E85B 1EE8F_1E856 1EE90_1E84F 1EE91_1E85C 1EE92_1E850 1EE93_1E862
    1EE94_1E860 1EE95-1EE96_1E86B 1EE97_1E869 1EE98_1E868 1EE99_1E863 1EE9A_1E862 1EE9B_1E861
    1EEA1_1E879 1EEA2_1E876 1EEA3_1E874 1EEA5_1E85D 1EEA6_1E874 1EEA7_1E87A 1EEA8_1E871
    1EEA9_1E85F 1EEAB-1EEAD_1E867 1EEAE_1E87B 1EEAF_1E876 1EEB0_1E86F 1EEB1_1E87C 1EEB2_1E870
    1EEB3_1E882 1EEB4_1E880 1EEB5-1EEB6_1E88B 1EEB7_1E889 1EEB8_1E888 1EEB9_1E883 1EEBA_1E882
    1EEBB_1E881 1F12B_1F0C8 1F12C_1F0BA 1F130-1F149_1F0CF 1F202_1C14D 1F210_18FC5 1F211_196BA
    1F212_19E46 1F213_1C14C 1F214_1A388 1F215_198FB 1F216_16833 1F217_198EE 1F218_1A374
    1F219_18BF9 1F21A_180F9 1F21B_18C82 1F21C_19FCF 1F21D_19291 1F21E_1A091 1F21F_18C6F
    1F220_1A003 1F221_174DF 1F222_17D03 1F223_1657A 1F224_19934 1F225_19DEC 1F226_18312
    1F227_18F92 1F228_18ED3 1F229_1A429 1F22A_1A421 1F22B_161E1 1F22C_19446 1F22D_1A400
    1F22E_19E3B 1F22F_18F28 1F230_164C0 1F231_18FDE 1F232_178B1 1F233_177B9 1F234_19E2C
    1F235_183B5 1F236_18B2D 1F237_18B2F 1F238_17D05 1F239_19FC7 1F23A_19C84 1F23B_160EE
    1F250_192B9 1F251_19E62 1FBF0-1FBF9_1FBC0 2F800_2A9C3 2F801_2A9C9 2F802_2A9C1 2F803_F6E1
    2F804_2A8A4 2F805_2A857 2F806_2A84B 2F807_2A805 2F808_2A78E 2F809_2A770 2F80A_2A723
    2F80B_2A73C 2F80C_2C36E 2F80D_F1D3 2F80E_2A6C1 2F80F_2A6BB 2F810_2A6AC 2F811_2A69A
    2F812_F2F6 2F813_2C35A 2F814_2A6AD 2F815_2A688 2F816_F2CB 2F817_2A680 2F818_2A674
    2F819_2A94D 2F81A_2A66E 2F81B_2A666 2F81C_663D 2F81D_2A628 2F81E_2A61B 2F81F_2C340
    2F820_2A5E5 2F821_2A5DB 2F822_2A5B0 2F823_2A5AC 2F824_2C30F 2F825_2A55E 2F826_2A55D
    2F827_2A543 2F828_2A52E 2F829-2F82A_2A524 2F82B_2A514 2F82C_2A4E3 2F82D_2A4DC 2F82E_2A4D4
    2F82F_2A4BC 2F830_2A4B3 2F831_2A4B2 2F832_2A4B3 2F833_2A4B4 2F834_EE08 2F835_287C5
    2F836_2A46C 2F837_2A458 2F838_ECD5 2F839_2A44E 2F83A_2A449 2F83B_2A435 2F83C_2A39E
    2F83D_2A405 2F83E_2A3F6 2F83F_2A3D7 2F840_2A39E 2F841_2A34B 2F842_2A332 2F843_2A2F0
    2F844_2A2E1 2F845_2A2C1 2F846_2A2C2 2F847_2A2AE 2F848_2A29D 2F849_2A296 2F84A_2A288
    2F84B_2A135 2F84C_2A246 2F84D_2A136 2F84E_2A1FD 2F84F_2A1DB 2F850_2A649 2F851_29F63
    2F852_2A084 2F853_2A05F 2F854_2A047 2F855_2A0CA 2F856_2A024 2F857_2A026 2F858_29FAC
    2F859_E375 2F85A_29F68 2F85B_29F64 2F85C_29F56 2F85D_29F43 2F85E_29F3C 2F85F_29EFD
    2F860_E1B8 2F861_E177 2F862_29E76 2F863_29E48 2F864_29E3D 2F865_29E8D 2F866_29E00
    2F867_2C179 2F868_2C16C 2F869_29D61 2F86A_29D2C 2F86B_29D2D 2F86C_DEA4 2F86D_29CAA
    2F86E_29C96 2F86F_29C88 2F870_29C7D 2F871_DD59 2F872_29C73 2F873_29C6D 2F874_29921
    2F875_29C53 2F876_2C0F5 2F877_29C17 2F878_29C0A 2F879_29BB9 2F87A_29BED 2F87B_DA97
    2F87C_29B39 2F87D_DA97 2F87E_29B10 2F87F_29B14 2F880_29B04 2F881-2F882_29AA0 2F883_2C054
    2F884_29A87 2F885_29A5D 2F886_29A49 2F887_29A1E 2F888_2C026 2F889_D706 2F88A_2C00E
    2F88B_299DB 2F88C_299D9 2F88D_299D7 2F88E_299C4 2F88F_54FD 2F890_29992 2F891_D560 2F892_D561
    2F893_27692 2F894_29972 2F895_29973 2F896_2BFCF 2F897_C5DF 2F898_96BE 2F899_29937
    2F89A_2992F 2F89B_2BFB8 2F89C_29902 2F89D_298D0 2F89E_298C7 2F89F_298A6 2F8A0_2981F
    2F8A1_2BF67 2F8A2_2BF86 2F8A3_2980F 2F8A4_D1D0 2F8A5_297DE 2F8A6_2975E 2F8A7_2975B
    2F8A8_2975A 2F8A9_2975D 2F8AA_29730 2F8AB_2971D 2F8AC_296FA 2F8AD_29709 2F8AE_296FF
    2F8AF_296D1 2F8B0_296BE 2F8B1_296BB 2F8B2_296A2 2F8B3_29698 2F8B4_29657 2F8B5_29604
    2F8B6_295E2 2F8B7_29567 2F8B8_CDAC 2F8B9_2957C 2F8BA_295BE 2F8BB_29553 2F8BC_29539
    2F8BD_294D9 2F8BE_CCCD 2F8BF_2949D 2F8C0_294FB 2F8C1_29518 2F8C2_2BE94 2F8C3_2945A
    2F8C4_29446 2F8C5_29428 2F8C6_2944F 2F8C7_2BE5B 2F8C8_29379 2F8C9_2935D 2F8CA_C8C0
    2F8CB_292E8 2F8CC_291D4 2F8CD_29284 2F8CE_2BDB5 2F8CF_2923E 2F8D0_2BDC8 2F8D1_2BDED
    2F8D2_2A740 2F8D3_2A73E 2F8D4_291D4 2F8D5_29239 2F8D6_27829 2F8D7_2B4FE 2F8D8_291C1
    2F8D9_291BE 2F8DA_291B9 2F8DB_2917D 2F8DC_29189 2F8DD_C51A 2F8DE_2BD95 2F8DF_290E5
    2F8E0_2915B 2F8E1_2908F 2F8E2_2905D 2F8E3_C476 2F8E4_29056 2F8E5_290C6 2F8E6_28FD2
    2F8E7_2BD4A 2F8E8_28FA6 2F8E9_28F46 2F8EA_28F00 2F8EB_28E43 2F8EC_C249 2F8ED_28E12
    2F8EE_2BCD6 2F8EF_28DCE 2F8F0_C049 2F8F1_28D9D 2F8F2_2BCA4 2F8F3_28D81 2F8F4_28D55
    2F8F5-2F8F6_28D3B 2F8F7_BE6A 2F8F8_DBED 2F8F9_BDFF 2F8FA_28CAC 2F8FB_BC3F 2F8FC_28C3D
    2F8FD_28C30 2F8FE_28C97 2F8FF_28BE9 2F900_28BC2 2F901_28B8A 2F902_28BC1 2F903_28B9A
    2F904_28B8C 2F905_28B80 2F906_BBE8 2F907_28BD3 2F908_28AD9 2F909_28A9B 2F90A_2BBD7
    2F90B_28A40 2F90C_28A45 2F90D_BA3C 2F90E_28B15 2F90F_289A1 2F910_B9B2 2F911_B983 2F912_2894C
    2F913_288DA 2F914_288F6 2F915_288FA 2F916_2BB80 2F917_288CD 2F918_2889B 2F919_288A2
    2F91A_2886D 2F91B_F3F6 2F91C_287D7 2F91D_B6BA 2F91E_28782 2F91F_B574 2F920_286F8 2F921_286EC
    2F922_286D2 2F923_B31B 2F924_286A4 2F925_28690 2F926_B1F1 2F927_B113 2F928_285AE 2F929_2859E
    2F92A_2BA7E 2F92B_28586 2F92C_2BA74 2F92D_2BA75 2F92E_284E7 2F92F_284D3 2F930_284BF
    2F931_284AC 2F932_28468 2F933_2BA18 2F934_28410 2F935_ACFF 2F936_283F8 2F937_ACA5
    2F938_283C8 2F939_D79A 2F93A_2832A 2F93B_A99A 2F93C_A984 2F93D_A8F9 2F93E_2B942 2F93F_2B937
    2F940_2824C 2F941_A84E 2F942_A850 2F943_A82A 2F944_A811 2F945-2F946_28227 2F947_28228
    2F948_281FE 2F949_2B910 2F94A_281BF 2F94B_2B905 2F94C_2B8B6 2F94D_A530 2F94E_28100
    2F94F_280C3 2F950_28084 2F951_2B86E 2F952_A32C 2F953_27FFD 2F954_A2BA 2F955_A290 2F956_27FC7
    2F957_27F6C 2F958_2B829 2F959_27F19 2F95A_27F10 2F95B_27F0C 2F95C_9FE0 2F95D_9EB6 2F95E_9EB7
    2F95F_27E71 2F960_2B75E 2F961_9DB6 2F962_27D9C 2F963_27D9A 2F964_2B73D 2F965_9CE5
    2F966_27C94 2F967_2B6C7 2F968_27C80 2F969_27C86 2F96A_27C6A 2F96B_99E5 2F96C_27C09
    2F96D_2B66C 2F96E_27BA7 2F96F_27B6D 2F970_27B2B 2F971_2B63D 2F972_974A 2F973_972C
    2F974_2B61B 2F975_969C 2F976_279FC 2F977_9639 2F978_279E3 2F979_2797F 2F97A_27975 2F97B_94A1
    2F97C_9459 2F97D_2791D 2F97E_93D6 2F97F_2790F 2F980_C621 2F981_2B5AC 2F982_278D0 2F983_27880
    2F984_2B579 2F985_27847 2F986_29ED1 2F987_91E0 2F988_91D3 2F989_C5F6 2F98A_C5EE 2F98B_2778A
    2F98C_27788 2F98D_269EF 2F98E_2B523 2F98F_276FE 2F990_27705" ++
  shifts
    "2F991_276F4 2F992_2A6DF 2F993_276E2 2F994_276E1 2F995_276D8 2F996_276B0 2F997_8E5B
    2F998_276B3 2F999_2767C 2F99A_27637 2F99B_275EE 2F99C_27679 2F99D_275E0 2F99E_275B7
    2F99F_27548 2F9A0_2764D 2F9A1_275D7 2F9A2_275D6 2F9A3_275C7 2F9A4_8D6E 2F9A5_8C3A 2F9A6_8CD1
    2F9A7_2B47C 2F9A8_274B7 2F9A9_274B6 2F9AA_27494 2F9AB_85E1 2F9AC_27448 2F9AD_8A81
    2F9AE_2B451 2F9AF_2B44E 2F9B0_89FF 2F9B1_88DF 2F9B2_2B447 2F9B3_27363 2F9B4_27358
    2F9B5_2734E 2F9B6_2734D 2F9B7_2730E 2F9B8_27330 2F9B9_272AB 2F9BA_272D8 2F9BB_27242
    2F9BC_27294 2F9BD_27252 2F9BE_27238 2F9BF_2B3E8 2F9C0_271DF 2F9C1_271C0 2F9C2_2B3C9
    2F9C3_27163 2F9C4_27161 2F9C5_835E 2F9C6_270EF 2F9C7_270E9 2F9C8_2B393 2F9C9_270CF
    2F9CA_2C50F 2F9CB_811D 2F9CC_8066 2F9CD_2B30F 2F9CE_2B307 2F9CF_26F2F 2F9D0_26EE3
    2F9D1_26E47 2F9D2_26D7D 2F9D3_7D2B 2F9D4_26D29 2F9D5_26D14 2F9D6_26CBB 2F9D7_26C60
    2F9D8_7AA9 2F9D9_F1D5 2F9DA_26C0F 2F9DB_26C1F 2F9DC_26BEC 2F9DD_F0FF 2F9DE_26B0A 2F9DF_26AA7
    2F9E0_740E 2F9E1_73F4 2F9E2_2694E 2F9E3_268F2 2F9E4_268D3 2F9E5_72B7 2F9E6_268CB 2F9E7_267AF
    2F9E8-2F9E9_26711 2F9EA_2676E 2F9EB_265F2 2F9EC_265D7 2F9ED_6DF3 2F9EE_26463 2F9EF_2B05A
    2F9F0_26439 2F9F1_6C7A 2F9F2_2B00C 2F9F3_26330 2F9F4_29C42 2F9F5_262D2 2F9F6_68B1 2F9F7_67DD
    2F9F8_2AF8A 2F9F9_2AF83 2F9FA_2621A 2F9FB_65F1 2F9FC_2AF4A 2F9FD_6567 2F9FE_261F3
    2F9FF_261F4 2FA00_261D7 2FA01_644B 2FA02_26120 2FA03_2AED0 2FA04_260DB 2FA05_2605E
    2FA06_26044 2FA07_26009 2FA08_2AE3A 2FA09_5ED9 2FA0A_25EF8 2FA0B_25DCB 2FA0C_25D0F
    2FA0D_2AD3F 2FA0E_2AD21 2FA0F_25CA8 2FA10_5942 2FA11_2AD19 2FA12_590D 2FA13_5805 2FA14_5783
    2FA15_25B5A 2FA16_2ACC0 2FA17_25B1E 2FA18_25B1A 2FA19_25B14 2FA1A_25B0B 2FA1B_25B05
    2FA1C_25AE1 2FA1D_541D"

/-- Characters outside ASCII that several others stand for. -/
def longReplacements : Array (Nat × List Nat) :=
  expansions
    "A8=20.308 AF=20.304 B4=20.301 B8=20.327 BC=31.2044.34 BD=31.2044.32 BE=33.2044.34 130=69.307
    132=69.6A 133=69.6A 13F=6C.B7 140=6C.B7 149=2BC.6E 1C4=64.17E 1C5=64.17E 1C6=64.17E
    1C7=6C.6A 1C8=6C.6A 1C9=6C.6A 1CA=6E.6A 1CB=6E.6A 1CC=6E.6A 1F1=64.7A 1F2=64.7A 1F3=64.7A
    2D8=20.306 2D9=20.307 2DA=20.30A 2DB=20.328 2DC=20.303 2DD=20.30B 344=308.301 37A=20.3B9
    384=20.301 385=20.308.301 587=565.582 675=627.674 676=648.674 677=6C7.674 678=64A.674
    958=915.93C 959=916.93C 95A=917.93C 95B=91C.93C 95C=921.93C 95D=922.93C 95E=92B.93C
    95F=92F.93C 9DC=9A1.9BC 9DD=9A2.9BC 9DF=9AF.9BC A33=A32.A3C A36=A38.A3C A59=A16.A3C
    A5A=A17.A3C A5B=A1C.A3C A5E=A2B.A3C B5C=B21.B3C B5D=B22.B3C E33=E4D.E32 EB3=ECD.EB2
    EDC=EAB.E99 EDD=EAB.EA1 F43=F42.FB7 F4D=F4C.FB7 F52=F51.FB7 F57=F56.FB7 F5C=F5B.FB7
    F69=F40.FB5 F73=F71.F72 F75=F71.F74 F76=FB2.F80 F77=FB2.F71.F80 F78=FB3.F80 F79=FB3.F71.F80
    F81=F71.F80 F93=F92.FB7 F9D=F9C.FB7 FA2=FA1.FB7 FA7=FA6.FB7 FAC=FAB.FB7 FB9=F90.FB5
    1E9A=61.2BE 1F80=1F00.3B9 1F81=1F01.3B9 1F82=1F02.3B9 1F83=1F03.3B9 1F84=1F04.3B9
    1F85=1F05.3B9 1F86=1F06.3B9 1F87=1F07.3B9 1F88=1F00.3B9 1F89=1F01.3B9 1F8A=1F02.3B9
    1F8B=1F03.3B9 1F8C=1F04.3B9 1F8D=1F05.3B9 1F8E=1F06.3B9 1F8F=1F07.3B9 1F90=1F20.3B9
    1F91=1F21.3B9 1F92=1F22.3B9 1F93=1F23.3B9 1F94=1F24.3B9 1F95=1F25.3B9 1F96=1F26.3B9
    1F97=1F27.3B9 1F98=1F20.3B9 1F99=1F21.3B9 1F9A=1F22.3B9 1F9B=1F23.3B9 1F9C=1F24.3B9
    1F9D=1F25.3B9 1F9E=1F26.3B9 1F9F=1F27.3B9 1FA0=1F60.3B9 1FA1=1F61.3B9 1FA2=1F62.3B9
    1FA3=1F63.3B9 1FA4=1F64.3B9 1FA5=1F65.3B9 1FA6=1F66.3B9 1FA7=1F67.3B9 1FA8=1F60.3B9
    1FA9=1F61.3B9 1FAA=1F62.3B9 1FAB=1F63.3B9 1FAC=1F64.3B9 1FAD=1F65.3B9 1FAE=1F66.3B9
    1FAF=1F67.3B9 1FB2=1F70.3B9 1FB3=3B1.3B9 1FB4=3AC.3B9 1FB7=1FB6.3B9 1FBC=3B1.3B9 1FBD=20.313
    1FBF=20.313 1FC0=20.342 1FC1=20.308.342 1FC2=1F74.3B9 1FC3=3B7.3B9 1FC4=3AE.3B9
    1FC7=1FC6.3B9 1FCC=3B7.3B9 1FCD=20.313.300 1FCE=20.313.301 1FCF=20.313.342 1FDD=20.314.300
    1FDE=20.314.301 1FDF=20.314.342 1FED=20.308.300 1FEE=20.308.301 1FF2=1F7C.3B9 1FF3=3C9.3B9
    1FF4=3CE.3B9 1FF7=1FF6.3B9 1FFC=3C9.3B9 1FFD=20.301 1FFE=20.314 2017=20.333 2033=2032.2032
    2034=2032.2032.2032 2036=2035.2035 2037=2035.2035.2035 203C=21.21 203E=20.305 2047=3F.3F
    2048=3F.21 2049=21.3F 2057=2032.2032.2032.2032 20A8=72.73 2100=61.2F.63 2101=61.2F.73
    2103=B0.63 2105=63.2F.6F 2106=63.2F.75 2109=B0.66 2116=6E.6F 2120=73.6D 2121=74.65.6C
    2122=74.6D 213B=66.61.78 2150=31.2044.37 2151=31.2044.39 2152=31.2044.31.30 2153=31.2044.33
    2154=32.2044.33 2155=31.2044.35 2156=32.2044.35 2157=33.2044.35 2158=34.2044.35
    2159=31.2044.36 215A=35.2044.36 215B=31.2044.38 215C=33.2044.38 215D=35.2044.38
    215E=37.2044.38 215F=31.2044 2161=69.69 2162=69.69.69 2163=69.76 2165=76.69 2166=76.69.69
    2167=76.69.69.69 2168=69.78 216A=78.69 216B=78.69.69 2171=69.69 2172=69.69.69 2173=69.76
    2175=76.69 2176=76.69.69 2177=76.69.69.69 2178=69.78 217A=78.69 217B=78.69.69
    2189=30.2044.33 222C=222B.222B 222D=222B.222B.222B 222F=222E.222E 2230=222E.222E.222E
    2469=31.30 246A=31.31 246B=31.32 246C=31.33 246D=31.34 246E=31.35 246F=31.36 2470=31.37
    2471=31.38 2472=31.39 2473=32.30 2474=28.31.29 2475=28.32.29 2476=28.33.29 2477=28.34.29
    2478=28.35.29 2479=28.36.29 247A=28.37.29 247B=28.38.29 247C=28.39.29 247D=28.31.30.29
    247E=28.31.31.29 247F=28.31.32.29 2480=28.31.33.29 2481=28.31.34.29 2482=28.31.35.29
    2483=28.31.36.29 2484=28.31.37.29 2485=28.31.38.29 2486=28.31.39.29 2487=28.32.30.29
    249C=28.61.29 249D=28.62.29 249E=28.63.29 249F=28.64.29 24A0=28.65.29 24A1=28.66.29
    24A2=28.67.29 24A3=28.68.29 24A4=28.69.29 24A5=28.6A.29 24A6=28.6B.29 24A7=28.6C.29
    24A8=28.6D.29 24A9=28.6E.29 24AA=28.6F.29 24AB=28.70.29 24AC=28.71.29 24AD=28.72.29
    24AE=28.73.29 24AF=28.74.29 24B0=28.75.29 24B1=28.76.29 24B2=28.77.29 24B3=28.78.29
    24B4=28.79.29 24B5=28.7A.29 2A0C=222B.222B.222B.222B 2A74=3A.3A.3D 2A75=3D.3D 2A76=3D.3D.3D
    2ADC=2ADD.338 309B=20.3099 309C=20.309A 309F=3088.308A 30FF=30B3.30C8 3200=28.1100.29
    3201=28.1102.29 3202=28.1103.29 3203=28.1105.29 3204=28.1106.29 3205=28.1107.29
    3206=28.1109.29 3207=28.110B.29 3208=28.110C.29 3209=28.110E.29 320A=28.110F.29
    320B=28.1110.29 320C=28.1111.29 320D=28.1112.29 320E=28.AC00.29 320F=28.B098.29
    3210=28.B2E4.29 3211=28.B77C.29 3212=28.B9C8.29 3213=28.BC14.29 3214=28.C0AC.29
    3215=28.C544.29 3216=28.C790.29 3217=28.CC28.29 3218=28.CE74.29 3219=28.D0C0.29
    321A=28.D30C.29 321B=28.D558.29 321C=28.C8FC.29 321D=28.C624.C804.29 321E=28.C624.D6C4.29
    3220=28.4E00.29 3221=28.4E8C.29 3222=28.4E09.29 3223=28.56DB.29 3224=28.4E94.29
    3225=28.516D.29 3226=28.4E03.29 3227=28.516B.29 3228=28.4E5D.29 3229=28.5341.29
    322A=28.6708.29 322B=28.706B.29 322C=28.6C34.29 322D=28.6728.29 322E=28.91D1.29
    322F=28.571F.29 3230=28.65E5.29 3231=28.682A.29 3232=28.6709.29 3233=28.793E.29
    3234=28.540D.29 3235=28.7279.29 3236=28.8CA1.29 3237=28.795D.29 3238=28.52B4.29
    3239=28.4EE3.29 323A=28.547C.29 323B=28.5B66.29 323C=28.76E3.29 323D=28.4F01.29
    323E=28.8CC7.29 323F=28.5354.29 3240=28.796D.29 3241=28.4F11.29 3242=28.81EA.29
    3243=28.81F3.29 3250=70.74.65 3251=32.31 3252=32.32 3253=32.33 3254=32.34 3255=32.35
    3256=32.36 3257=32.37 3258=32.38 3259=32.39 325A=33.30 325B=33.31 325C=33.32 325D=33.33
    325E=33.34 325F=33.35 327C=CC38.ACE0 327D=C8FC.C758 32B1=33.36 32B2=33.37 32B3=33.38
    32B4=33.39 32B5=34.30 32B6=34.31 32B7=34.32 32B8=34.33 32B9=34.34 32BA=34.35 32BB=34.36
    32BC=34.37 32BD=34.38 32BE=34.39 32BF=35.30 32C0=31.6708 32C1=32.6708 32C2=33.6708
    32C3=34.6708 32C4=35.6708 32C5=36.6708 32C6=37.6708 32C7=38.6708 32C8=39.6708
    32C9=31.30.6708 32CA=31.31.6708 32CB=31.32.6708 32CC=68.67 32CD=65.72.67 32CE=65.76
    32CF=6C.74.64 32FF=4EE4.548C 3300=30A2.30D1.30FC.30C8 3301=30A2.30EB.30D5.30A1
    3302=30A2.30F3.30DA.30A2 3303=30A2.30FC.30EB 3304=30A4.30CB.30F3.30B0 3305=30A4.30F3.30C1
    3306=30A6.30A9.30F3 3307=30A8.30B9.30AF.30FC.30C9 3308=30A8.30FC.30AB.30FC
    3309=30AA.30F3.30B9 330A=30AA.30FC.30E0 330B=30AB.30A4.30EA 330C=30AB.30E9.30C3.30C8
    330D=30AB.30ED.30EA.30FC 330E=30AC.30ED.30F3 330F=30AC.30F3.30DE 3310=30AE.30AC
    3311=30AE.30CB.30FC 3312=30AD.30E5.30EA.30FC 3313=30AE.30EB.30C0.30FC 3314=30AD.30ED
    3315=30AD.30ED.30B0.30E9.30E0 3316=30AD.30ED.30E1.30FC.30C8.30EB
    3317=30AD.30ED.30EF.30C3.30C8 3318=30B0.30E9.30E0 3319=30B0.30E9.30E0.30C8.30F3
    331A=30AF.30EB.30BC.30A4.30ED 331B=30AF.30ED.30FC.30CD 331C=30B1.30FC.30B9
    331D=30B3.30EB.30CA 331E=30B3.30FC.30DD 331F=30B5.30A4.30AF.30EB
    3320=30B5.30F3.30C1.30FC.30E0 3321=30B7.30EA.30F3.30B0 3322=30BB.30F3.30C1
    3323=30BB.30F3.30C8 3324=30C0.30FC.30B9 3325=30C7.30B7 3326=30C9.30EB 3327=30C8.30F3
    3328=30CA.30CE 3329=30CE.30C3.30C8" ++
  expansions
    "332A=30CF.30A4.30C4 332B=30D1.30FC.30BB.30F3.30C8 332C=30D1.30FC.30C4
    332D=30D0.30FC.30EC.30EB 332E=30D4.30A2.30B9.30C8.30EB 332F=30D4.30AF.30EB 3330=30D4.30B3
    3331=30D3.30EB 3332=30D5.30A1.30E9.30C3.30C9 3333=30D5.30A3.30FC.30C8
    3334=30D6.30C3.30B7.30A7.30EB 3335=30D5.30E9.30F3 3336=30D8.30AF.30BF.30FC.30EB
    3337=30DA.30BD 3338=30DA.30CB.30D2 3339=30D8.30EB.30C4 333A=30DA.30F3.30B9
    333B=30DA.30FC.30B8 333C=30D9.30FC.30BF 333D=30DD.30A4.30F3.30C8 333E=30DC.30EB.30C8
    333F=30DB.30F3 3340=30DD.30F3.30C9 3341=30DB.30FC.30EB 3342=30DB.30FC.30F3
    3343=30DE.30A4.30AF.30ED 3344=30DE.30A4.30EB 3345=30DE.30C3.30CF 3346=30DE.30EB.30AF
    3347=30DE.30F3.30B7.30E7.30F3 3348=30DF.30AF.30ED.30F3 3349=30DF.30EA
    334A=30DF.30EA.30D0.30FC.30EB 334B=30E1.30AC 334C=30E1.30AC.30C8.30F3
    334D=30E1.30FC.30C8.30EB 334E=30E4.30FC.30C9 334F=30E4.30FC.30EB 3350=30E6.30A2.30F3
    3351=30EA.30C3.30C8.30EB 3352=30EA.30E9 3353=30EB.30D4.30FC 3354=30EB.30FC.30D6.30EB
    3355=30EC.30E0 3356=30EC.30F3.30C8.30B2.30F3 3357=30EF.30C3.30C8 3358=30.70B9 3359=31.70B9
    335A=32.70B9 335B=33.70B9 335C=34.70B9 335D=35.70B9 335E=36.70B9 335F=37.70B9 3360=38.70B9
    3361=39.70B9 3362=31.30.70B9 3363=31.31.70B9 3364=31.32.70B9 3365=31.33.70B9 3366=31.34.70B9
    3367=31.35.70B9 3368=31.36.70B9 3369=31.37.70B9 336A=31.38.70B9 336B=31.39.70B9
    336C=32.30.70B9 336D=32.31.70B9 336E=32.32.70B9 336F=32.33.70B9 3370=32.34.70B9
    3371=68.70.61 3372=64.61 3373=61.75 3374=62.61.72 3375=6F.76 3376=70.63 3377=64.6D
    3378=64.6D.32 3379=64.6D.33 337A=69.75 337B=5E73.6210 337C=662D.548C 337D=5927.6B63
    337E=660E.6CBB 337F=682A.5F0F.4F1A.793E 3380=70.61 3381=6E.61 3382=3BC.61 3383=6D.61
    3384=6B.61 3385=6B.62 3386=6D.62 3387=67.62 3388=63.61.6C 3389=6B.63.61.6C 338A=70.66
    338B=6E.66 338C=3BC.66 338D=3BC.67 338E=6D.67 338F=6B.67 3390=68.7A 3391=6B.68.7A
    3392=6D.68.7A 3393=67.68.7A 3394=74.68.7A 3395=3BC.6C 3396=6D.6C 3397=64.6C 3398=6B.6C
    3399=66.6D 339A=6E.6D 339B=3BC.6D 339C=6D.6D 339D=63.6D 339E=6B.6D 339F=6D.6D.32
    33A0=63.6D.32 33A1=6D.32 33A2=6B.6D.32 33A3=6D.6D.33 33A4=63.6D.33 33A5=6D.33 33A6=6B.6D.33
    33A7=6D.2215.73 33A8=6D.2215.73.32 33A9=70.61 33AA=6B.70.61 33AB=6D.70.61 33AC=67.70.61
    33AD=72.61.64 33AE=72.61.64.2215.73 33AF=72.61.64.2215.73.32 33B0=70.73 33B1=6E.73
    33B2=3BC.73 33B3=6D.73 33B4=70.76 33B5=6E.76 33B6=3BC.76 33B7=6D.76 33B8=6B.76 33B9=6D.76
    33BA=70.77 33BB=6E.77 33BC=3BC.77 33BD=6D.77 33BE=6B.77 33BF=6D.77 33C0=6B.3C9 33C1=6D.3C9
    33C3=62.71 33C4=63.63 33C5=63.64 33C6=63.2215.6B.67 33C8=64.62 33C9=67.79 33CA=68.61
    33CB=68.70 33CC=69.6E 33CD=6B.6B 33CE=6B.6D 33CF=6B.74 33D0=6C.6D 33D1=6C.6E 33D2=6C.6F.67
    33D3=6C.78 33D4=6D.62 33D5=6D.69.6C 33D6=6D.6F.6C 33D7=70.68 33D9=70.70.6D 33DA=70.72
    33DB=73.72 33DC=73.76 33DD=77.62 33DE=76.2215.6D 33DF=61.2215.6D 33E0=31.65E5 33E1=32.65E5
    33E2=33.65E5 33E3=34.65E5 33E4=35.65E5 33E5=36.65E5 33E6=37.65E5 33E7=38.65E5 33E8=39.65E5
    33E9=31.30.65E5 33EA=31.31.65E5 33EB=31.32.65E5 33EC=31.33.65E5 33ED=31.34.65E5
    33EE=31.35.65E5 33EF=31.36.65E5 33F0=31.37.65E5 33F1=31.38.65E5 33F2=31.39.65E5
    33F3=32.30.65E5 33F4=32.31.65E5 33F5=32.32.65E5 33F6=32.33.65E5 33F7=32.34.65E5
    33F8=32.35.65E5 33F9=32.36.65E5 33FA=32.37.65E5 33FB=32.38.65E5 33FC=32.39.65E5
    33FD=33.30.65E5 33FE=33.31.65E5 33FF=67.61.6C FB00=66.66 FB01=66.69 FB02=66.6C FB03=66.66.69
    FB04=66.66.6C FB05=73.74 FB06=73.74 FB13=574.576 FB14=574.565 FB15=574.56B FB16=57E.576
    FB17=574.56D FB1D=5D9.5B4 FB1F=5F2.5B7 FB2A=5E9.5C1 FB2B=5E9.5C2 FB2C=5E9.5BC.5C1
    FB2D=5E9.5BC.5C2 FB2E=5D0.5B7 FB2F=5D0.5B8 FB30=5D0.5BC FB31=5D1.5BC FB32=5D2.5BC
    FB33=5D3.5BC FB34=5D4.5BC FB35=5D5.5BC FB36=5D6.5BC FB38=5D8.5BC FB39=5D9.5BC FB3A=5DA.5BC
    FB3B=5DB.5BC FB3C=5DC.5BC FB3E=5DE.5BC FB40=5E0.5BC FB41=5E1.5BC FB43=5E3.5BC FB44=5E4.5BC
    FB46=5E6.5BC FB47=5E7.5BC FB48=5E8.5BC FB49=5E9.5BC FB4A=5EA.5BC FB4B=5D5.5B9 FB4C=5D1.5BF
    FB4D=5DB.5BF FB4E=5E4.5BF FB4F=5D0.5DC FBDD=6C7.674 FBEA=626.627 FBEB=626.627 FBEC=626.6D5
    FBED=626.6D5 FBEE=626.648 FBEF=626.648 FBF0=626.6C7 FBF1=626.6C7 FBF2=626.6C6 FBF3=626.6C6
    FBF4=626.6C8 FBF5=626.6C8 FBF6=626.6D0 FBF7=626.6D0 FBF8=626.6D0 FBF9=626.649 FBFA=626.649
    FBFB=626.649 FC00=626.62C FC01=626.62D FC02=626.645 FC03=626.649 FC04=626.64A FC05=628.62C
    FC06=628.62D FC07=628.62E FC08=628.645 FC09=628.649 FC0A=628.64A FC0B=62A.62C FC0C=62A.62D
    FC0D=62A.62E FC0E=62A.645 FC0F=62A.649 FC10=62A.64A FC11=62B.62C FC12=62B.645 FC13=62B.649
    FC14=62B.64A FC15=62C.62D FC16=62C.645 FC17=62D.62C FC18=62D.645 FC19=62E.62C FC1A=62E.62D
    FC1B=62E.645 FC1C=633.62C FC1D=633.62D FC1E=633.62E FC1F=633.645 FC20=635.62D FC21=635.645
    FC22=636.62C FC23=636.62D FC24=636.62E FC25=636.645 FC26=637.62D FC27=637.645 FC28=638.645
    FC29=639.62C FC2A=639.645 FC2B=63A.62C FC2C=63A.645 FC2D=641.62C FC2E=641.62D FC2F=641.62E
    FC30=641.645 FC31=641.649 FC32=641.64A FC33=642.62D FC34=642.645 FC35=642.649 FC36=642.64A
    FC37=643.627 FC38=643.62C FC39=643.62D FC3A=643.62E FC3B=643.644 FC3C=643.645 FC3D=643.649
    FC3E=643.64A FC3F=644.62C FC40=644.62D FC41=644.62E FC42=644.645 FC43=644.649 FC44=644.64A
    FC45=645.62C FC46=645.62D FC47=645.62E FC48=645.645 FC49=645.649 FC4A=645.64A FC4B=646.62C
    FC4C=646.62D FC4D=646.62E FC4E=646.645 FC4F=646.649 FC50=646.64A FC51=647.62C FC52=647.645
    FC53=647.649 FC54=647.64A FC55=64A.62C FC56=64A.62D FC57=64A.62E FC58=64A.645 FC59=64A.649
    FC5A=64A.64A FC5B=630.670 FC5C=631.670 FC5D=649.670 FC5E=20.64C.651 FC5F=20.64D.651
    FC60=20.64E.651 FC61=20.64F.651 FC62=20.650.651 FC63=20.651.670 FC64=626.631 FC65=626.632
    FC66=626.645 FC67=626.646 FC68=626.649 FC69=626.64A FC6A=628.631 FC6B=628.632 FC6C=628.645
    FC6D=628.646 FC6E=628.649 FC6F=628.64A FC70=62A.631 FC71=62A.632 FC72=62A.645 FC73=62A.646
    FC74=62A.649 FC75=62A.64A FC76=62B.631 FC77=62B.632 FC78=62B.645 FC79=62B.646 FC7A=62B.649
    FC7B=62B.64A FC7C=641.649 FC7D=641.64A FC7E=642.649 FC7F=642.64A FC80=643.627 FC81=643.644
    FC82=643.645 FC83=643.649 FC84=643.64A FC85=644.645 FC86=644.649 FC87=644.64A FC88=645.627
    FC89=645.645 FC8A=646.631 FC8B=646.632 FC8C=646.645 FC8D=646.646 FC8E=646.649 FC8F=646.64A
    FC90=649.670 FC91=64A.631 FC92=64A.632 FC93=64A.645 FC94=64A.646 FC95=64A.649 FC96=64A.64A
    FC97=626.62C FC98=626.62D FC99=626.62E FC9A=626.645 FC9B=626.647 FC9C=628.62C FC9D=628.62D
    FC9E=628.62E FC9F=628.645 FCA0=628.647 FCA1=62A.62C FCA2=62A.62D FCA3=62A.62E FCA4=62A.645
    FCA5=62A.647 FCA6=62B.645 FCA7=62C.62D FCA8=62C.645 FCA9=62D.62C FCAA=62D.645 FCAB=62E.62C
    FCAC=62E.645 FCAD=633.62C FCAE=633.62D FCAF=633.62E FCB0=633.645 FCB1=635.62D FCB2=635.62E
    FCB3=635.645 FCB4=636.62C FCB5=636.62D FCB6=636.62E FCB7=636.645 FCB8=637.62D" ++
  expansions
    "FCB9=638.645 FCBA=639.62C FCBB=639.645 FCBC=63A.62C FCBD=63A.645 FCBE=641.62C FCBF=641.62D
    FCC0=641.62E FCC1=641.645 FCC2=642.62D FCC3=642.645 FCC4=643.62C FCC5=643.62D FCC6=643.62E
    FCC7=643.644 FCC8=643.645 FCC9=644.62C FCCA=644.62D FCCB=644.62E FCCC=644.645 FCCD=644.647
    FCCE=645.62C FCCF=645.62D FCD0=645.62E FCD1=645.645 FCD2=646.62C FCD3=646.62D FCD4=646.62E
    FCD5=646.645 FCD6=646.647 FCD7=647.62C FCD8=647.645 FCD9=647.670 FCDA=64A.62C FCDB=64A.62D
    FCDC=64A.62E FCDD=64A.645 FCDE=64A.647 FCDF=626.645 FCE0=626.647 FCE1=628.645 FCE2=628.647
    FCE3=62A.645 FCE4=62A.647 FCE5=62B.645 FCE6=62B.647 FCE7=633.645 FCE8=633.647 FCE9=634.645
    FCEA=634.647 FCEB=643.644 FCEC=643.645 FCED=644.645 FCEE=646.645 FCEF=646.647 FCF0=64A.645
    FCF1=64A.647 FCF2=640.64E.651 FCF3=640.64F.651 FCF4=640.650.651 FCF5=637.649 FCF6=637.64A
    FCF7=639.649 FCF8=639.64A FCF9=63A.649 FCFA=63A.64A FCFB=633.649 FCFC=633.64A FCFD=634.649
    FCFE=634.64A FCFF=62D.649 FD00=62D.64A FD01=62C.649 FD02=62C.64A FD03=62E.649 FD04=62E.64A
    FD05=635.649 FD06=635.64A FD07=636.649 FD08=636.64A FD09=634.62C FD0A=634.62D FD0B=634.62E
    FD0C=634.645 FD0D=634.631 FD0E=633.631 FD0F=635.631 FD10=636.631 FD11=637.649 FD12=637.64A
    FD13=639.649 FD14=639.64A FD15=63A.649 FD16=63A.64A FD17=633.649 FD18=633.64A FD19=634.649
    FD1A=634.64A FD1B=62D.649 FD1C=62D.64A FD1D=62C.649 FD1E=62C.64A FD1F=62E.649 FD20=62E.64A
    FD21=635.649 FD22=635.64A FD23=636.649 FD24=636.64A FD25=634.62C FD26=634.62D FD27=634.62E
    FD28=634.645 FD29=634.631 FD2A=633.631 FD2B=635.631 FD2C=636.631 FD2D=634.62C FD2E=634.62D
    FD2F=634.62E FD30=634.645 FD31=633.647 FD32=634.647 FD33=637.645 FD34=633.62C FD35=633.62D
    FD36=633.62E FD37=634.62C FD38=634.62D FD39=634.62E FD3A=637.645 FD3B=638.645 FD3C=627.64B
    FD3D=627.64B FD50=62A.62C.645 FD51=62A.62D.62C FD52=62A.62D.62C FD53=62A.62D.645
    FD54=62A.62E.645 FD55=62A.645.62C FD56=62A.645.62D FD57=62A.645.62E FD58=62C.645.62D
    FD59=62C.645.62D FD5A=62D.645.64A FD5B=62D.645.649 FD5C=633.62D.62C FD5D=633.62C.62D
    FD5E=633.62C.649 FD5F=633.645.62D FD60=633.645.62D FD61=633.645.62C FD62=633.645.645
    FD63=633.645.645 FD64=635.62D.62D FD65=635.62D.62D FD66=635.645.645 FD67=634.62D.645
    FD68=634.62D.645 FD69=634.62C.64A FD6A=634.645.62E FD6B=634.645.62E FD6C=634.645.645
    FD6D=634.645.645 FD6E=636.62D.649 FD6F=636.62E.645 FD70=636.62E.645 FD71=637.645.62D
    FD72=637.645.62D FD73=637.645.645 FD74=637.645.64A FD75=639.62C.645 FD76=639.645.645
    FD77=639.645.645 FD78=639.645.649 FD79=63A.645.645 FD7A=63A.645.64A FD7B=63A.645.649
    FD7C=641.62E.645 FD7D=641.62E.645 FD7E=642.645.62D FD7F=642.645.645 FD80=644.62D.645
    FD81=644.62D.64A FD82=644.62D.649 FD83=644.62C.62C FD84=644.62C.62C FD85=644.62E.645
    FD86=644.62E.645 FD87=644.645.62D FD88=644.645.62D FD89=645.62D.62C FD8A=645.62D.645
    FD8B=645.62D.64A FD8C=645.62C.62D FD8D=645.62C.645 FD8E=645.62E.62C FD8F=645.62E.645
    FD92=645.62C.62E FD93=647.645.62C FD94=647.645.645 FD95=646.62D.645 FD96=646.62D.649
    FD97=646.62C.645 FD98=646.62C.645 FD99=646.62C.649 FD9A=646.645.64A FD9B=646.645.649
    FD9C=64A.645.645 FD9D=64A.645.645 FD9E=628.62E.64A FD9F=62A.62C.64A FDA0=62A.62C.649
    FDA1=62A.62E.64A FDA2=62A.62E.649 FDA3=62A.645.64A FDA4=62A.645.649 FDA5=62C.645.64A
    FDA6=62C.62D.649 FDA7=62C.645.649 FDA8=633.62E.649 FDA9=635.62D.64A FDAA=634.62D.64A
    FDAB=636.62D.64A FDAC=644.62C.64A FDAD=644.645.64A FDAE=64A.62D.64A FDAF=64A.62C.64A
    FDB0=64A.645.64A FDB1=645.645.64A FDB2=642.645.64A FDB3=646.62D.64A FDB4=642.645.62D
    FDB5=644.62D.645 FDB6=639.645.64A FDB7=643.645.64A FDB8=646.62C.62D FDB9=645.62E.64A
    FDBA=644.62C.645 FDBB=643.645.645 FDBC=644.62C.645 FDBD=646.62C.62D FDBE=62C.62D.64A
    FDBF=62D.62C.64A FDC0=645.62C.64A FDC1=641.645.64A FDC2=628.62D.64A FDC3=643.645.645
    FDC4=639.62C.645 FDC5=635.645.645 FDC6=633.62E.64A FDC7=646.62C.64A FDF0=635.644.6D2
    FDF1=642.644.6D2 FDF2=627.644.644.647 FDF3=627.643.628.631 FDF4=645.62D.645.62F
    FDF5=635.644.639.645 FDF6=631.633.648.644 FDF7=639.644.64A.647 FDF8=648.633.644.645
    FDF9=635.644.649 FDFA=635.644.649.20.627.644.644.647.20.639.644.64A.647.20.648.633.644.645
    FDFB=62C.644.20.62C.644.627.644.647 FDFC=631.6CC.627.644 FE49=20.305 FE4A=20.305 FE4B=20.305
    FE4C=20.305 FE70=20.64B FE71=640.64B FE72=20.64C FE74=20.64D FE76=20.64E FE77=640.64E
    FE78=20.64F FE79=640.64F FE7A=20.650 FE7B=640.650 FE7C=20.651 FE7D=640.651 FE7E=20.652
    FE7F=640.652 FEF5=644.622 FEF6=644.622 FEF7=644.623 FEF8=644.623 FEF9=644.625 FEFA=644.625
    FEFB=644.627 FEFC=644.627 FFE3=20.304 1D15E=1D157.1D165 1D15F=1D158.1D165
    1D160=1D158.1D165.1D16E 1D161=1D158.1D165.1D16F 1D162=1D158.1D165.1D170
    1D163=1D158.1D165.1D171 1D164=1D158.1D165.1D172 1D1BB=1D1B9.1D165 1D1BC=1D1BA.1D165
    1D1BD=1D1B9.1D165.1D16E 1D1BE=1D1BA.1D165.1D16E 1D1BF=1D1B9.1D165.1D16F
    1D1C0=1D1BA.1D165.1D16F 1F101=30.2C 1F102=31.2C 1F103=32.2C 1F104=33.2C 1F105=34.2C
    1F106=35.2C 1F107=36.2C 1F108=37.2C 1F109=38.2C 1F10A=39.2C 1F110=28.61.29 1F111=28.62.29
    1F112=28.63.29 1F113=28.64.29 1F114=28.65.29 1F115=28.66.29 1F116=28.67.29 1F117=28.68.29
    1F118=28.69.29 1F119=28.6A.29 1F11A=28.6B.29 1F11B=28.6C.29 1F11C=28.6D.29 1F11D=28.6E.29
    1F11E=28.6F.29 1F11F=28.70.29 1F120=28.71.29 1F121=28.72.29 1F122=28.73.29 1F123=28.74.29
    1F124=28.75.29 1F125=28.76.29 1F126=28.77.29 1F127=28.78.29 1F128=28.79.29 1F129=28.7A.29
    1F12A=3014.73.3015 1F12D=63.64 1F12E=77.7A 1F14A=68.76 1F14B=6D.76 1F14C=73.64 1F14D=73.73
    1F14E=70.70.76 1F14F=77.63 1F16A=6D.63 1F16B=6D.64 1F16C=6D.72 1F190=64.6A 1F200=307B.304B
    1F201=30B3.30B3 1F240=3014.672C.3015 1F241=3014.4E09.3015 1F242=3014.4E8C.3015
    1F243=3014.5B89.3015 1F244=3014.70B9.3015 1F245=3014.6253.3015 1F246=3014.76D7.3015
    1F247=3014.52DD.3015 1F248=3014.6557.3015"

/-- Characters that are dropped. -/
def dropped : Array Span :=
  spans
    "AD 34F 115F-1160 17B4-17B5 180B-180F 200B 2060-2064 206A-206F 3164 FE00-FE0F FEFF FFA0
    1BCA0-1BCA3 1D173-1D17A E0100-E01EF"

/-- Characters that no domain name may hold. -/
def refusedSpans : Array Span :=
  spans
    "80-9F 378-379 380-383 38B 38D 3A2 530 557-558 58B-58C 590 5C8-5CF 5EB-5EE 5F5-605 61C 6DD
    70E-70F 74B-74C 7B2-7BF 7FB-7FC 82E-82F 83F 85C-85D 85F 86B-86F 890-896 8E2 984 98D-98E
    991-992 9A9 9B1 9B3-9B5 9BA-9BB 9C5-9C6 9C9-9CA 9CF-9D6 9D8-9DB 9DE 9E4-9E5 9FF-A00 A04
    A0B-A0E A11-A12 A29 A31 A34 A37 A3A-A3B A3D A43-A46 A49-A4A A4E-A50 A52-A58 A5D A5F-A65
    A77-A80 A84 A8E A92 AA9 AB1 AB4 ABA-ABB AC6 ACA ACE-ACF AD1-ADF AE4-AE5 AF2-AF8 B00 B04
    B0D-B0E B11-B12 B29 B31 B34 B3A-B3B B45-B46 B49-B4A B4E-B54 B58-B5B B5E B64-B65 B78-B81 B84
    B8B-B8D B91 B96-B98 B9B B9D BA0-BA2 BA5-BA7 BAB-BAD BBA-BBD BC3-BC5 BC9 BCE-BCF BD1-BD6
    BD8-BE5 BFB-BFF C0D C11 C29 C3A-C3B C45 C49 C4E-C54 C57 C5B C5E-C5F C64-C65 C70-C76 C8D C91
    CA9 CB4 CBA-CBB CC5 CC9 CCE-CD4 CD7-CDB CDF CE4-CE5 CF0 CF4-CFF D0D D11 D45 D49 D50-D53
    D64-D65 D80 D84 D97-D99 DB2 DBC DBE-DBF DC7-DC9 DCB-DCE DD5 DD7 DE0-DE5 DF0-DF1 DF5-E00
    E3B-E3E E5C-E80 E83 E85 E8B EA4 EA6 EBE-EBF EC5 EC7 ECF EDA-EDB EE0-EFF F48 F6D-F70 F98 FBD
    FCD FDB-FFF 10C6 10C8-10CC 10CE-10CF 1249 124E-124F 1257 1259 125E-125F 1289 128E-128F 12B1
    12B6-12B7 12BF 12C1 12C6-12C7 12D7 1311 1316-1317 135B-135C 137D-137F 139A-139F 13F6-13F7
    13FE-13FF 1680 169D-169F 16F9-16FF 1716-171E 1737-173F 1754-175F 176D 1771 1774-177F
    17DE-17DF 17EA-17EF 17FA-17FF 181A-181F 1879-187F 18AB-18AF 18F6-18FF 191F 192C-192F
    193C-193F 1941-1943 196E-196F 1975-197F 19AC-19AF 19CA-19CF 19DB-19DD 1A1C-1A1D 1A5F
    1A7D-1A7E 1A8A-1A8F 1A9A-1A9F 1AAE-1AAF 1ADE-1ADF 1AEC-1AFF 1B4D 1BF4-1BFB 1C38-1C3A
    1C4A-1C4C 1C8B-1C8F 1CBB-1CBC 1CC8-1CCF 1CFB-1CFF 1F16-1F17 1F1E-1F1F 1F46-1F47 1F4E-1F4F
    1F58 1F5A 1F5C 1F5E 1F7E-1F7F 1FB5 1FC5 1FD4-1FD5 1FDC 1FF0-1FF1 1FF5 1FFF 200E-200F
    2024-2026 2028-202E 2065-2069 2072-2073 208F 209D-209F 20C2-20CF 20F1-20FF 218C-218F
    242A-243F 244B-245F 2488-249B 2B74-2B75 2CF4-2CF8 2D26 2D28-2D2C 2D2E-2D2F 2D68-2D6E
    2D71-2D7E 2D97-2D9F 2DA7 2DAF 2DB7 2DBF 2DC7 2DCF 2DD7 2DDF 2E5E-2E7F 2E9A 2EF4-2EFF
    2FD6-2FFF 3040 3097-3098 3100-3104 3130 318F 31E6-31EF 321F 33C2 33C7 33D8 A48D-A48F
    A4C7-A4CF A62C-A63F A6F8-A6FF A7DD-A7F0 A82D-A82F A83A-A83F A878-A87F A8C6-A8CD A8DA-A8DF
    A954-A95E A97D-A97F A9CE A9DA-A9DD A9FF AA37-AA3F AA4E-AA4F AA5A-AA5B AAC3-AADA AAF7-AB00
    AB07-AB08 AB0F-AB10 AB17-AB1F AB27 AB2F AB6C-AB6F ABEE-ABEF ABFA-ABFF D7A4-D7AF D7C7-D7CA
    D7FC-F8FF FA6E-FA6F FADA-FAFF FB07-FB12 FB18-FB1C FB37 FB3D FB3F FB42 FB45 FDD0-FDEF FE12
    FE19-FE1F FE30 FE52-FE53 FE67 FE6C-FE6F FE75 FEFD-FEFE FF00 FFBF-FFC1 FFC8-FFC9 FFD0-FFD1
    FFD8-FFD9 FFDD-FFDF FFE7 FFEF-FFFF 1000C 10027 1003B 1003E 1004E-1004F 1005E-1007F
    100FB-100FF 10103-10106 10134-10136 1018F 1019D-1019F 101A1-101CF 101FE-1027F 1029D-1029F
    102D1-102DF 102FC-102FF 10324-1032C 1034B-1034F 1037B-1037F 1039E 103C4-103C7 103D6-103FF
    1049E-1049F 104AA-104AF 104D4-104D7 104FC-104FF 10528-1052F 10564-1056E 1057B 1058B 10593
    10596 105A2 105B2 105BA 105BD-105BF 105F4-105FF 10737-1073F 10756-1075F 10768-1077F 10786
    107B1 107BB-107FF 10806-10807 10809 10836 10839-1083B 1083D-1083E 10856 1089F-108A6
    108B0-108DF 108F3 108F6-108FA 1091C-1091E 1093A-1093E 1095A-1097F 109B8-109BB 109D0-109D1
    10A04 10A07-10A0B 10A14 10A18 10A36-10A37 10A3B-10A3E 10A49-10A4F 10A59-10A5F 10AA0-10ABF
    10AE7-10AEA 10AF7-10AFF 10B36-10B38 10B56-10B57 10B73-10B77 10B92-10B98 10B9D-10BA8
    10BB0-10BFF 10C49-10C7F 10CB3-10CBF 10CF3-10CF9 10D28-10D2F 10D3A-10D3F 10D66-10D68
    10D86-10D8D 10D90-10E5F 10E7F 10EAA 10EAE-10EAF 10EB2-10EC1 10EC8-10ECF 10ED9-10EF9
    10F28-10F2F 10F5A-10F6F 10F8A-10FAF 10FCC-10FDF 10FF7-10FFF 1104E-11051 11076-1107E 110BD
    110C3-110CF 110E9-110EF 110FA-110FF 11135 11148-1114F 11177-1117F 111E0 111F5-111FF 11212
    11242-1127F 11287 11289 1128E 1129E 112AA-112AF 112EB-112EF 112FA-112FF 11304 1130D-1130E
    11311-11312 11329 11331 11334 1133A 11345-11346 11349-1134A 1134E-1134F 11351-11356
    11358-1135C 11364-11365 1136D-1136F 11375-1137F 1138A 1138C-1138D 1138F 113B6 113C1
    113C3-113C4 113C6 113CB 113D6 113D9-113E0 113E3-113FF 1145C 11462-1147F 114C8-114CF
    114DA-1157F 115B6-115B7 115DE-115FF 11645-1164F 1165A-1165F 1166D-1167F 116BA-116BF
    116CA-116CF 116E4-116FF 1171B-1171C 1172C-1172F 11747-117FF 1183C-1189F 118F3-118FE
    11907-11908 1190A-1190B 11914 11917 11936 11939-1193A 11947-1194F 1195A-1199F 119A8-119A9
    119D8-119D9 119E5-119FF 11A48-11A4F 11AA3-11AAF 11AF9-11AFF 11B0A-11B5F 11B68-11BBF
    11BE2-11BEF 11BFA-11BFF 11C09 11C37 11C46-11C4F 11C6D-11C6F 11C90-11C91 11CA8 11CB7-11CFF
    11D07 11D0A 11D37-11D39 11D3B 11D3E 11D48-11D4F 11D5A-11D5F 11D66 11D69 11D8F 11D92
    11D99-11D9F 11DAA-11DAF 11DDC-11DDF 11DEA-11EDF 11EF9-11EFF 11F11 11F3B-11F3D 11F5B-11FAF
    11FB1-11FBF 11FF2-11FFE 1239A-123FF 1246F 12475-1247F 12544-12F8F 12FF3-12FFF 13430-1343F
    13456-1345F 143FB-143FF 14647-160FF 1613A-167FF 16A39-16A3F 16A5F 16A6A-16A6D 16ABF
    16ACA-16ACF 16AEE-16AEF 16AF6-16AFF 16B46-16B4F 16B5A 16B62 16B78-16B7C 16B90-16D3F
    16D7A-16E3F 16E9B-16E9F 16EB9-16EBA 16ED4-16EFF 16F4B-16F4E 16F88-16F8E 16FA0-16FDF
    16FE5-16FEF 16FF7-16FFF 18CD6-18CFE 18D1F-18D7F 18DF3-1AFEF 1AFF4 1AFFC 1AFFF 1B123-1B131
    1B133-1B14F 1B153-1B154 1B156-1B163 1B168-1B16F 1B2FC-1BBFF 1BC6B-1BC6F 1BC7D-1BC7F
    1BC89-1BC8F 1BC9A-1BC9B 1BCA4-1CBFF 1CCFD-1CCFF 1CEB4-1CEB9 1CED1-1CEDF 1CEF1-1CEFF
    1CF2E-1CF2F 1CF47-1CF4F 1CFC4-1CFFF 1D0F6-1D0FF 1D127-1D128 1D1EB-1D1FF 1D246-1D2BF
    1D2D4-1D2DF 1D2F4-1D2FF 1D357-1D35F 1D379-1D3FF 1D455 1D49D 1D4A0-1D4A1 1D4A3-1D4A4
    1D4A7-1D4A8 1D4AD 1D4BA 1D4BC 1D4C4 1D506 1D50B-1D50C 1D515 1D51D 1D53A 1D53F 1D545
    1D547-1D549 1D551 1D6A6-1D6A7 1D7CC-1D7CD 1DA8C-1DA9A 1DAA0 1DAB0-1DEFF 1DF1F-1DF24
    1DF2B-1DFFF 1E007 1E019-1E01A 1E022 1E025 1E02B-1E02F 1E06E-1E08E 1E090-1E0FF 1E12D-1E12F
    1E13E-1E13F 1E14A-1E14D 1E150-1E28F 1E2AF-1E2BF 1E2FA-1E2FE 1E300-1E4CF 1E4FA-1E5CF
    1E5FB-1E5FE 1E600-1E6BF 1E6DF 1E6F6-1E6FD 1E700-1E7DF 1E7E7 1E7EC 1E7EF 1E7FF 1E8C5-1E8C6
    1E8D7-1E8FF 1E94C-1E94F 1E95A-1E95D 1E960-1EC70 1ECB5-1ED00 1ED3E-1EDFF 1EE04 1EE20 1EE23
    1EE25-1EE26 1EE28 1EE33 1EE38 1EE3A 1EE3C-1EE41 1EE43-1EE46 1EE48 1EE4A 1EE4C 1EE50 1EE53
    1EE55-1EE56 1EE58 1EE5A 1EE5C 1EE5E 1EE60 1EE63 1EE65-1EE66 1EE6B 1EE73 1EE78 1EE7D 1EE7F
    1EE8A 1EE9C-1EEA0 1EEA4 1EEAA 1EEBC-1EEEF 1EEF2-1EFFF 1F02C-1F02F 1F094-1F09F 1F0AF-1F0B0
    1F0C0 1F0D0 1F0F6-1F100 1F1AE-1F1E5 1F203-1F20F 1F23C-1F23F 1F249-1F24F 1F252-1F25F
    1F266-1F2FF 1F6D9-1F6DB 1F6ED-1F6EF 1F6FD-1F6FF 1F7DA-1F7DF 1F7EC-1F7EF 1F7F1-1F7FF
    1F80C-1F80F 1F848-1F84F 1F85A-1F85F 1F888-1F88F 1F8AE-1F8AF 1F8BC-1F8BF 1F8C2-1F8CF
    1F8D9-1F8FF 1FA58-1FA5F 1FA6E-1FA6F 1FA7D-1FA7F 1FA8B-1FA8D 1FAC7 1FAC9-1FACC 1FADD-1FADE
    1FAEB-1FAEE 1FAF9-1FAFF 1FB93 1FBFB-1FFFF" ++
  spans
    "2A6E0-2A6FF 2B81E-2B81F 2CEAE-2CEAF 2EBE1-2EBEF 2EE5E-2F7FF 2FA1E-2FFFF 3134B-3134F
    3347A-E00FF E01F0-10FFFF"

/-- What becomes of one character. -/
def prepare (n : Nat) : Preparation :=
  if n < 0x80 then
    if 0x41 ≤ n ∧ n ≤ 0x5A then .replaced [n + 0x20] else .kept
  else
    match shifted? replacements n with
    | some image => .replaced [image]
    | none =>
      match longReplacements.find? (·.1 == n) with
      | some (_, image) => .replaced image
      | none =>
        if inSpans dropped n then .replaced []
        else if inSpans refusedSpans n then .refused
        else .kept

/-- Whether a character stays as it is. -/
def isKept (n : Nat) : Bool :=
  prepare n == .kept

end RegistryBridge.Domain
