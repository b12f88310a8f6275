import HttpLoad.Text.Basic

/-!
# Letters, their marks and their neighbours

How the characters of a domain name are put together: a letter with its marks is one character as
far as possible, and invisible joiners stand only where they make a difference.

## Main definitions

* `Composition.decompose`: a character as a letter with its marks
* `Composition.reorder`: marks in order of their classes
* `Composition.normalize`: the composed form
* `Joining.joiningType`: how a letter joins with its neighbours
* `Joining.allowed`: whether all joiners of a label are allowed
-/

namespace HttpLoad

/-!
## Canonical composition

A letter with marks can be written as one character or as several. Domain names use the composed
form: marks are put into a fixed order, then combined with the letter before them as far as there
is one character for both.
-/

namespace Composition

/-- The classes of combining marks, other than zero. -/
def classTable : String :=
  "300..314=230 315=232 316..319=220 31A=232 31B=216 31C..320=220 321..322=202 323..326=220
  327..328=202 329..333=220 334..338=1 339..33C=220 33D..346=230 347..349=220 34A..34C=230
  34D..34E=220 350..352=230 353..356=220 357=230 358=232 359..35A=220 35B=230 35C=233 35D..35E=234
  35F=233 360..361=234 362=233 363..36F=230 483..487=230 591=220 592..595=230 596=220 597..599=230
  59A=222 59B=220 59C..5A1=230 5A2..5A7=220 5A8..5A9=230 5AA=220 5AB..5AC=230 5AD=222 5AE=228
  5AF=230 5B0=10 5B1=11 5B2=12 5B3=13 5B4=14 5B5=15 5B6=16 5B7=17 5B8=18 5B9..5BA=19 5BB=20 5BC=21
  5BD=22 5BF=23 5C1=24 5C2=25 5C4=230 5C5=220 5C7=18 610..617=230 618=30 619=31 61A=32 64B=27
  64C=28 64D=29 64E=30 64F=31 650=32 651=33 652=34 653..654=230 655..656=220 657..65B=230 65C=220
  65D..65E=230 65F=220 670=35 6D6..6DC=230 6DF..6E2=230 6E3=220 6E4=230 6E7..6E8=230 6EA=220
  6EB..6EC=230 6ED=220 711=36 730=230 731=220 732..733=230 734=220 735..736=230 737..739=220
  73A=230 73B..73C=220 73D=230 73E=220 73F..741=230 742=220 743=230 744=220 745=230 746=220
  747=230 748=220 749..74A=230 7EB..7F1=230 7F2=220 7F3=230 7FD=220 816..819=230 81B..823=230
  825..827=230 829..82D=230 859..85B=220 897..898=230 899..89B=220 89C..89F=230 8CA..8CE=230
  8CF..8D3=220 8D4..8E1=230 8E3=220 8E4..8E5=230 8E6=220 8E7..8E8=230 8E9=220 8EA..8EC=230
  8ED..8EF=220 8F0=27 8F1=28 8F2=29 8F3..8F5=230 8F6=220 8F7..8F8=230 8F9..8FA=220 8FB..8FF=230
  93C=7 94D=9 951=230 952=220 953..954=230 9BC=7 9CD=9 9FE=230 A3C=7 A4D=9 ABC=7 ACD=9 B3C=7 B4D=9
  BCD=9 C3C=7 C4D=9 C55=84 C56=91 CBC=7 CCD=9 D3B..D3C=9 D4D=9 DCA=9 E38..E39=103 E3A=9
  E48..E4B=107 EB8..EB9=118 EBA=9 EC8..ECB=122 F18..F19=220 F35=220 F37=220 F39=216 F71=129
  F72=130 F74=132 F7A..F7D=130 F80=130 F82..F83=230 F84=9 F86..F87=230 FC6=220 1037=7 1039..103A=9
  108D=220 135D..135F=230 1714..1715=9 1734=9 17D2=9 17DD=230 18A9=228 1939=222 193A=230 193B=220
  1A17=230 1A18=220 1A60=9 1A75..1A7C=230 1A7F=220 1AB0..1AB4=230 1AB5..1ABA=220 1ABB..1ABC=230
  1ABD=220 1ABF..1AC0=220 1AC1..1AC2=230 1AC3..1AC4=220 1AC5..1AC9=230 1ACA=220 1ACB..1ADC=230
  1ADD=220 1AE0..1AE5=230 1AE6=220 1AE7..1AEA=230 1AEB=234 1B34=7 1B44=9 1B6B=230 1B6C=220
  1B6D..1B73=230 1BAA..1BAB=9 1BE6=7 1BF2..1BF3=9 1C37=7 1CD0..1CD2=230 1CD4=1 1CD5..1CD9=220
  1CDA..1CDB=230 1CDC..1CDF=220 1CE0=230 1CE2..1CE8=1 1CED=220 1CF4=230 1CF8..1CF9=230
  1DC0..1DC1=230 1DC2=220 1DC3..1DC9=230 1DCA=220 1DCB..1DCC=230 1DCD=234 1DCE=214 1DCF=220
  1DD0=202 1DD1..1DF5=230 1DF6=232 1DF7..1DF8=228 1DF9=220 1DFA=218 1DFB=230 1DFC=233 1DFD=220
  1DFE=230 1DFF=220 20D0..20D1=230 20D2..20D3=1 20D4..20D7=230 20D8..20DA=1 20DB..20DC=230
  20E1=230 20E5..20E6=1 20E7=230 20E8=220 20E9=230 20EA..20EB=1 20EC..20EF=220 20F0=230
  2CEF..2CF1=230 2D7F=9 2DE0..2DFF=230 302A=218 302B=228 302C=232 302D=222 302E..302F=224
  3099..309A=8 A66F=230 A674..A67D=230 A69E..A69F=230 A6F0..A6F1=230 A806=9 A82C=9 A8C4=9
  A8E0..A8F1=230 A92B..A92D=220 A953=9 A9B3=7 A9C0=9 AAB0=230 AAB2..AAB3=230 AAB4=220
  AAB7..AAB8=230 AABE..AABF=230 AAC1=230 AAF6=9 ABED=9 FB1E=26 FE20..FE26=230 FE27..FE2D=220
  FE2E..FE2F=230 101FD=220 102E0=220 10376..1037A=230 10A0D=220 10A0F=230 10A38=230 10A39=1
  10A3A=220 10A3F=9 10AE5=230 10AE6=220 10D24..10D27=230 10D69..10D6D=230 10EAB..10EAC=230
  10EFA..10EFB=220 10EFD..10EFF=220 10F46..10F47=220 10F48..10F4A=230 10F4B=220 10F4C=230
  10F4D..10F50=220 10F82=230 10F83=220 10F84=230 10F85=220 11046=9 11070=9 1107F=9 110B9=9 110BA=7
  11100..11102=230 11133..11134=9 11173=7 111C0=9 111CA=7 11235=9 11236=7 112E9=7 112EA=9
  1133B..1133C=7 1134D=9 11366..11374=230 113CE..113D0=9 11442=9 11446=7 1145E=230 114C2=9 114C3=7
  115BF=9 115C0=7 1163F=9 116B6=9 116B7=7 1172B=9 11839=9 1183A=7 1193D..1193E=9 11943=7 119E0=9
  11A34=9 11A47=9 11A99=9 11C3F=9 11D42=7 11D44..11D45=9 11D97=9 11F41..11F42=9 1612F=9
  16AF0..16AF4=1 16B30..16B36=230 16FF0..16FF1=6 1BC9E=1 1D165..1D166=216 1D167..1D169=1 1D16D=226
  1D16E..1D172=216 1D17B..1D182=220 1D185..1D189=230 1D18A..1D18B=220 1D1AA..1D1AD=230
  1D242..1D244=230 1E000..1E08F=230 1E130..1E136=230 1E2AE=230 1E2EC..1E2EF=230 1E4EC..1E4ED=232
  1E4EE=220 1E4EF=230 1E5EE=230 1E5EF=220 1E6E3=230 1E6E6=230 1E6EE..1E6EF=230 1E6F5=230
  1E8D0..1E8D6=220 1E944..1E949=230 1E94A=7"

def classes : RangeTable := RangeTable.parse classTable

/-- Pairs of characters that one character stands for. -/
def pairTable : String :=
  "C0=41+300 C1=41+301 C2=41+302 C3=41+303 C4=41+308 C5=41+30A C7=43+327 C8=45+300 C9=45+301
  CA=45+302 CB=45+308 CC=49+300 CD=49+301 CE=49+302 CF=49+308 D1=4E+303 D2=4F+300 D3=4F+301
  D4=4F+302 D5=4F+303 D6=4F+308 D9=55+300 DA=55+301 DB=55+302 DC=55+308 DD=59+301 E0=61+300
  E1=61+301 E2=61+302 E3=61+303 E4=61+308 E5=61+30A E7=63+327 E8=65+300 E9=65+301 EA=65+302
  EB=65+308 EC=69+300 ED=69+301 EE=69+302 EF=69+308 F1=6E+303 F2=6F+300 F3=6F+301 F4=6F+302
  F5=6F+303 F6=6F+308 F9=75+300 FA=75+301 FB=75+302 FC=75+308 FD=79+301 FF=79+308 100=41+304
  101=61+304 102=41+306 103=61+306 104=41+328 105=61+328 106=43+301 107=63+301 108=43+302
  109=63+302 10A=43+307 10B=63+307 10C=43+30C 10D=63+30C 10E=44+30C 10F=64+30C 112=45+304
  113=65+304 114=45+306 115=65+306 116=45+307 117=65+307 118=45+328 119=65+328 11A=45+30C
  11B=65+30C 11C=47+302 11D=67+302 11E=47+306 11F=67+306 120=47+307 121=67+307 122=47+327
  123=67+327 124=48+302 125=68+302 128=49+303 129=69+303 12A=49+304 12B=69+304 12C=49+306
  12D=69+306 12E=49+328 12F=69+328 130=49+307 134=4A+302 135=6A+302 136=4B+327 137=6B+327
  139=4C+301 13A=6C+301 13B=4C+327 13C=6C+327 13D=4C+30C 13E=6C+30C 143=4E+301 144=6E+301
  145=4E+327 146=6E+327 147=4E+30C 148=6E+30C 14C=4F+304 14D=6F+304 14E=4F+306 14F=6F+306
  150=4F+30B 151=6F+30B 154=52+301 155=72+301 156=52+327 157=72+327 158=52+30C 159=72+30C
  15A=53+301 15B=73+301 15C=53+302 15D=73+302 15E=53+327 15F=73+327 160=53+30C 161=73+30C
  162=54+327 163=74+327 164=54+30C 165=74+30C 168=55+303 169=75+303 16A=55+304 16B=75+304
  16C=55+306 16D=75+306 16E=55+30A 16F=75+30A 170=55+30B 171=75+30B 172=55+328 173=75+328
  174=57+302 175=77+302 176=59+302 177=79+302 178=59+308 179=5A+301 17A=7A+301 17B=5A+307
  17C=7A+307 17D=5A+30C 17E=7A+30C 1A0=4F+31B 1A1=6F+31B 1AF=55+31B 1B0=75+31B 1CD=41+30C
  1CE=61+30C 1CF=49+30C 1D0=69+30C 1D1=4F+30C 1D2=6F+30C 1D3=55+30C 1D4=75+30C 1D5=DC+304
  1D6=FC+304 1D7=DC+301 1D8=FC+301 1D9=DC+30C 1DA=FC+30C 1DB=DC+300 1DC=FC+300 1DE=C4+304
  1DF=E4+304 1E0=226+304 1E1=227+304 1E2=C6+304 1E3=E6+304 1E6=47+30C 1E7=67+30C 1E8=4B+30C
  1E9=6B+30C 1EA=4F+328 1EB=6F+328 1EC=1EA+304 1ED=1EB+304 1EE=1B7+30C 1EF=292+30C 1F0=6A+30C
  1F4=47+301 1F5=67+301 1F8=4E+300 1F9=6E+300 1FA=C5+301 1FB=E5+301 1FC=C6+301 1FD=E6+301
  1FE=D8+301 1FF=F8+301 200=41+30F 201=61+30F 202=41+311 203=61+311 204=45+30F 205=65+30F
  206=45+311 207=65+311 208=49+30F 209=69+30F 20A=49+311 20B=69+311 20C=4F+30F 20D=6F+30F
  20E=4F+311 20F=6F+311 210=52+30F 211=72+30F 212=52+311 213=72+311 214=55+30F 215=75+30F
  216=55+311 217=75+311 218=53+326 219=73+326 21A=54+326 21B=74+326 21E=48+30C 21F=68+30C
  226=41+307 227=61+307 228=45+327 229=65+327 22A=D6+304 22B=F6+304 22C=D5+304 22D=F5+304
  22E=4F+307 22F=6F+307 230=22E+304 231=22F+304 232=59+304 233=79+304 385=A8+301 386=391+301
  388=395+301 389=397+301 38A=399+301 38C=39F+301 38E=3A5+301 38F=3A9+301 390=3CA+301
  3AA=399+308 3AB=3A5+308 3AC=3B1+301 3AD=3B5+301 3AE=3B7+301 3AF=3B9+301 3B0=3CB+301
  3CA=3B9+308 3CB=3C5+308 3CC=3BF+301 3CD=3C5+301 3CE=3C9+301 3D3=3D2+301 3D4=3D2+308
  400=415+300 401=415+308 403=413+301 407=406+308 40C=41A+301 40D=418+300 40E=423+306
  419=418+306 439=438+306 450=435+300 451=435+308 453=433+301 457=456+308 45C=43A+301
  45D=438+300 45E=443+306 476=474+30F 477=475+30F 4C1=416+306 4C2=436+306 4D0=410+306
  4D1=430+306 4D2=410+308 4D3=430+308 4D6=415+306 4D7=435+306 4DA=4D8+308 4DB=4D9+308
  4DC=416+308 4DD=436+308 4DE=417+308 4DF=437+308 4E2=418+304 4E3=438+304 4E4=418+308
  4E5=438+308 4E6=41E+308 4E7=43E+308 4EA=4E8+308 4EB=4E9+308 4EC=42D+308 4ED=44D+308
  4EE=423+304 4EF=443+304 4F0=423+308 4F1=443+308 4F2=423+30B 4F3=443+30B 4F4=427+308
  4F5=447+308 4F8=42B+308 4F9=44B+308 622=627+653 623=627+654 624=648+654 625=627+655
  626=64A+654 6C0=6D5+654 6C2=6C1+654 6D3=6D2+654 929=928+93C 931=930+93C 934=933+93C
  9CB=9C7+9BE 9CC=9C7+9D7 B48=B47+B56 B4B=B47+B3E B4C=B47+B57 B94=B92+BD7 BCA=BC6+BBE
  BCB=BC7+BBE BCC=BC6+BD7 C48=C46+C56 CC0=CBF+CD5 CC7=CC6+CD5 CC8=CC6+CD6 CCA=CC6+CC2
  CCB=CCA+CD5 D4A=D46+D3E D4B=D47+D3E D4C=D46+D57 DDA=DD9+DCA DDC=DD9+DCF DDD=DDC+DCA
  DDE=DD9+DDF 1026=1025+102E 1B06=1B05+1B35 1B08=1B07+1B35 1B0A=1B09+1B35 1B0C=1B0B+1B35
  1B0E=1B0D+1B35 1B12=1B11+1B35 1B3B=1B3A+1B35 1B3D=1B3C+1B35 1B40=1B3E+1B35 1B41=1B3F+1B35
  1B43=1B42+1B35 1E00=41+325 1E01=61+325 1E02=42+307 1E03=62+307 1E04=42+323 1E05=62+323
  1E06=42+331 1E07=62+331 1E08=C7+301 1E09=E7+301 1E0A=44+307 1E0B=64+307 1E0C=44+323
  1E0D=64+323 1E0E=44+331 1E0F=64+331 1E10=44+327 1E11=64+327 1E12=44+32D 1E13=64+32D
  1E14=112+300 1E15=113+300 1E16=112+301 1E17=113+301 1E18=45+32D 1E19=65+32D 1E1A=45+330
  1E1B=65+330 1E1C=228+306 1E1D=229+306 1E1E=46+307 1E1F=66+307 1E20=47+304 1E21=67+304
  1E22=48+307 1E23=68+307 1E24=48+323 1E25=68+323 1E26=48+308 1E27=68+308 1E28=48+327
  1E29=68+327 1E2A=48+32E 1E2B=68+32E 1E2C=49+330 1E2D=69+330 1E2E=CF+301 1E2F=EF+301
  1E30=4B+301 1E31=6B+301 1E32=4B+323 1E33=6B+323 1E34=4B+331 1E35=6B+331 1E36=4C+323
  1E37=6C+323 1E38=1E36+304 1E39=1E37+304 1E3A=4C+331 1E3B=6C+331 1E3C=4C+32D 1E3D=6C+32D
  1E3E=4D+301 1E3F=6D+301 1E40=4D+307 1E41=6D+307 1E42=4D+323 1E43=6D+323 1E44=4E+307
  1E45=6E+307 1E46=4E+323 1E47=6E+323 1E48=4E+331 1E49=6E+331 1E4A=4E+32D 1E4B=6E+32D
  1E4C=D5+301 1E4D=F5+301 1E4E=D5+308 1E4F=F5+308 1E50=14C+300 1E51=14D+300 1E52=14C+301
  1E53=14D+301 1E54=50+301 1E55=70+301 1E56=50+307 1E57=70+307 1E58=52+307 1E59=72+307
  1E5A=52+323 1E5B=72+323 1E5C=1E5A+304 1E5D=1E5B+304 1E5E=52+331 1E5F=72+331 1E60=53+307
  1E61=73+307 1E62=53+323 1E63=73+323 1E64=15A+307 1E65=15B+307 1E66=160+307 1E67=161+307
  1E68=1E62+307 1E69=1E63+307 1E6A=54+307 1E6B=74+307 1E6C=54+323 1E6D=74+323 1E6E=54+331
  1E6F=74+331 1E70=54+32D 1E71=74+32D 1E72=55+324 1E73=75+324 1E74=55+330 1E75=75+330
  1E76=55+32D 1E77=75+32D 1E78=168+301 1E79=169+301 1E7A=16A+308 1E7B=16B+308 1E7C=56+303
  1E7D=76+303 1E7E=56+323 1E7F=76+323 1E80=57+300 1E81=77+300 1E82=57+301 1E83=77+301
  1E84=57+308 1E85=77+308 1E86=57+307 1E87=77+307 1E88=57+323 1E89=77+323 1E8A=58+307
  1E8B=78+307 1E8C=58+308 1E8D=78+308 1E8E=59+307 1E8F=79+307 1E90=5A+302 1E91=7A+302
  1E92=5A+323 1E93=7A+323 1E94=5A+331 1E95=7A+331 1E96=68+331 1E97=74+308 1E98=77+30A
  1E99=79+30A 1E9B=17F+307 1EA0=41+323 1EA1=61+323 1EA2=41+309 1EA3=61+309 1EA4=C2+301
  1EA5=E2+301 1EA6=C2+300 1EA7=E2+300 1EA8=C2+309 1EA9=E2+309 1EAA=C2+303 1EAB=E2+303
  1EAC=1EA0+302 1EAD=1EA1+302 1EAE=102+301 1EAF=103+301 1EB0=102+300 1EB1=103+300 1EB2=102+309
  1EB3=103+309 1EB4=102+303 1EB5=103+303 1EB6=1EA0+306 1EB7=1EA1+306 1EB8=45+323 1EB9=65+323
  1EBA=45+309 1EBB=65+309 1EBC=45+303 1EBD=65+303 1EBE=CA+301 1EBF=EA+301 1EC0=CA+300
  1EC1=EA+300 1EC2=CA+309 1EC3=EA+309 1EC4=CA+303 1EC5=EA+303 1EC6=1EB8+302 1EC7=1EB9+302
  1EC8=49+309 1EC9=69+309 1ECA=49+323 1ECB=69+323 1ECC=4F+323 1ECD=6F+323 1ECE=4F+309
  1ECF=6F+309 1ED0=D4+301 1ED1=F4+301 1ED2=D4+300 1ED3=F4+300 1ED4=D4+309 1ED5=F4+309
  1ED6=D4+303 1ED7=F4+303 1ED8=1ECC+302 1ED9=1ECD+302 1EDA=1A0+301 1EDB=1A1+301 1EDC=1A0+300
  1EDD=1A1+300 1EDE=1A0+309 1EDF=1A1+309 1EE0=1A0+303 1EE1=1A1+303 1EE2=1A0+323 1EE3=1A1+323
  1EE4=55+323 1EE5=75+323 1EE6=55+309 1EE7=75+309 1EE8=1AF+301 1EE9=1B0+301 1EEA=1AF+300
  1EEB=1B0+300 1EEC=1AF+309 1EED=1B0+309 1EEE=1AF+303 1EEF=1B0+303 1EF0=1AF+323 1EF1=1B0+323
  1EF2=59+300 1EF3=79+300 1EF4=59+323 1EF5=79+323 1EF6=59+309 1EF7=79+309 1EF8=59+303
  1EF9=79+303 1F00=3B1+313 1F01=3B1+314 1F02=1F00+300 1F03=1F01+300 1F04=1F00+301 1F05=1F01+301
  1F06=1F00+342 1F07=1F01+342 1F08=391+313 1F09=391+314 1F0A=1F08+300 1F0B=1F09+300
  1F0C=1F08+301 1F0D=1F09+301 1F0E=1F08+342 1F0F=1F09+342 1F10=3B5+313 1F11=3B5+314
  1F12=1F10+300 1F13=1F11+300 1F14=1F10+301 1F15=1F11+301 1F18=395+313 1F19=395+314
  1F1A=1F18+300 1F1B=1F19+300 1F1C=1F18+301 1F1D=1F19+301 1F20=3B7+313 1F21=3B7+314
  1F22=1F20+300 1F23=1F21+300 1F24=1F20+301 1F25=1F21+301 1F26=1F20+342 1F27=1F21+342
  1F28=397+313 1F29=397+314 1F2A=1F28+300 1F2B=1F29+300 1F2C=1F28+301 1F2D=1F29+301
  1F2E=1F28+342 1F2F=1F29+342 1F30=3B9+313 1F31=3B9+314 1F32=1F30+300 1F33=1F31+300
  1F34=1F30+301 1F35=1F31+301 1F36=1F30+342 1F37=1F31+342 1F38=399+313 1F39=399+314
  1F3A=1F38+300 1F3B=1F39+300 1F3C=1F38+301 1F3D=1F39+301 1F3E=1F38+342 1F3F=1F39+342
  1F40=3BF+313 1F41=3BF+314 1F42=1F40+300 1F43=1F41+300 1F44=1F40+301 1F45=1F41+301 1F48=39F+313
  1F49=39F+314 1F4A=1F48+300 1F4B=1F49+300 1F4C=1F48+301 1F4D=1F49+301 1F50=3C5+313 1F51=3C5+314
  1F52=1F50+300 1F53=1F51+300 1F54=1F50+301 1F55=1F51+301 1F56=1F50+342 1F57=1F51+342
  1F59=3A5+314 1F5B=1F59+300 1F5D=1F59+301 1F5F=1F59+342 1F60=3C9+313 1F61=3C9+314 1F62=1F60+300
  1F63=1F61+300 1F64=1F60+301 1F65=1F61+301 1F66=1F60+342 1F67=1F61+342 1F68=3A9+313
  1F69=3A9+314 1F6A=1F68+300 1F6B=1F69+300 1F6C=1F68+301 1F6D=1F69+301 1F6E=1F68+342
  1F6F=1F69+342 1F70=3B1+300 1F72=3B5+300 1F74=3B7+300 1F76=3B9+300 1F78=3BF+300 1F7A=3C5+300
  1F7C=3C9+300 1F80=1F00+345 1F81=1F01+345 1F82=1F02+345 1F83=1F03+345 1F84=1F04+345
  1F85=1F05+345 1F86=1F06+345 1F87=1F07+345 1F88=1F08+345 1F89=1F09+345 1F8A=1F0A+345
  1F8B=1F0B+345 1F8C=1F0C+345 1F8D=1F0D+345 1F8E=1F0E+345 1F8F=1F0F+345 1F90=1F20+345
  1F91=1F21+345 1F92=1F22+345 1F93=1F23+345 1F94=1F24+345 1F95=1F25+345 1F96=1F26+345
  1F97=1F27+345 1F98=1F28+345 1F99=1F29+345 1F9A=1F2A+345 1F9B=1F2B+345 1F9C=1F2C+345
  1F9D=1F2D+345 1F9E=1F2E+345 1F9F=1F2F+345 1FA0=1F60+345 1FA1=1F61+345 1FA2=1F62+345
  1FA3=1F63+345 1FA4=1F64+345 1FA5=1F65+345 1FA6=1F66+345 1FA7=1F67+345 1FA8=1F68+345
  1FA9=1F69+345 1FAA=1F6A+345 1FAB=1F6B+345 1FAC=1F6C+345 1FAD=1F6D+345 1FAE=1F6E+345
  1FAF=1F6F+345 1FB0=3B1+306 1FB1=3B1+304 1FB2=1F70+345 1FB3=3B1+345 1FB4=3AC+345 1FB6=3B1+342
  1FB7=1FB6+345 1FB8=391+306 1FB9=391+304 1FBA=391+300 1FBC=391+345 1FC1=A8+342 1FC2=1F74+345
  1FC3=3B7+345 1FC4=3AE+345 1FC6=3B7+342 1FC7=1FC6+345 1FC8=395+300 1FCA=397+300 1FCC=397+345
  1FCD=1FBF+300 1FCE=1FBF+301 1FCF=1FBF+342 1FD0=3B9+306 1FD1=3B9+304 1FD2=3CA+300 1FD6=3B9+342
  1FD7=3CA+342 1FD8=399+306 1FD9=399+304 1FDA=399+300 1FDD=1FFE+300 1FDE=1FFE+301 1FDF=1FFE+342
  1FE0=3C5+306 1FE1=3C5+304 1FE2=3CB+300 1FE4=3C1+313 1FE5=3C1+314 1FE6=3C5+342 1FE7=3CB+342
  1FE8=3A5+306 1FE9=3A5+304 1FEA=3A5+300 1FEC=3A1+314 1FED=A8+300 1FF2=1F7C+345 1FF3=3C9+345
  1FF4=3CE+345 1FF6=3C9+342 1FF7=1FF6+345 1FF8=39F+300 1FFA=3A9+300 1FFC=3A9+345 219A=2190+338
  219B=2192+338 21AE=2194+338 21CD=21D0+338 21CE=21D4+338 21CF=21D2+338 2204=2203+338
  2209=2208+338 220C=220B+338 2224=2223+338 2226=2225+338 2241=223C+338 2244=2243+338
  2247=2245+338 2249=2248+338 2260=3D+338 2262=2261+338 226D=224D+338 226E=3C+338 226F=3E+338
  2270=2264+338 2271=2265+338 2274=2272+338 2275=2273+338 2278=2276+338 2279=2277+338
  2280=227A+338 2281=227B+338 2284=2282+338 2285=2283+338 2288=2286+338 2289=2287+338
  22AC=22A2+338 22AD=22A8+338 22AE=22A9+338 22AF=22AB+338 22E0=227C+338 22E1=227D+338
  22E2=2291+338 22E3=2292+338 22EA=22B2+338 22EB=22B3+338 22EC=22B4+338 22ED=22B5+338
  304C=304B+3099 304E=304D+3099 3050=304F+3099 3052=3051+3099 3054=3053+3099 3056=3055+3099
  3058=3057+3099 305A=3059+3099 305C=305B+3099 305E=305D+3099 3060=305F+3099 3062=3061+3099
  3065=3064+3099 3067=3066+3099 3069=3068+3099 3070=306F+3099 3071=306F+309A 3073=3072+3099
  3074=3072+309A 3076=3075+3099 3077=3075+309A 3079=3078+3099 307A=3078+309A 307C=307B+3099
  307D=307B+309A 3094=3046+3099 309E=309D+3099 30AC=30AB+3099 30AE=30AD+3099 30B0=30AF+3099
  30B2=30B1+3099 30B4=30B3+3099 30B6=30B5+3099 30B8=30B7+3099 30BA=30B9+3099 30BC=30BB+3099
  30BE=30BD+3099 30C0=30BF+3099 30C2=30C1+3099 30C5=30C4+3099 30C7=30C6+3099 30C9=30C8+3099
  30D0=30CF+3099 30D1=30CF+309A 30D3=30D2+3099 30D4=30D2+309A 30D6=30D5+3099 30D7=30D5+309A
  30D9=30D8+3099 30DA=30D8+309A 30DC=30DB+3099 30DD=30DB+309A 30F4=30A6+3099 30F7=30EF+3099
  30F8=30F0+3099 30F9=30F1+3099 30FA=30F2+3099 30FE=30FD+3099 105C9=105D2+307 105E4=105DA+307
  1109A=11099+110BA 1109C=1109B+110BA 110AB=110A5+110BA 1112E=11131+11127 1112F=11132+11127
  1134B=11347+1133E 1134C=11347+11357 11383=11382+113C9 11385=11384+113BB 1138E=1138B+113C2
  11391=11390+113C9 113C5=113C2+113C2 113C7=113C2+113B8 113C8=113C2+113C9 114BB=114B9+114BA
  114BC=114B9+114B0 114BE=114B9+114BD 115BA=115B8+115AF 115BB=115B9+115AF 11938=11935+11930
  16121=1611E+1611E 16122=1611E+16129 16123=1611E+1611F 16124=16129+1611F 16125=1611E+16120
  16126=16121+1611F 16127=16122+1611F 16128=16121+16120 16D68=16D67+16D67 16D69=16D63+16D67
  16D6A=16D69+16D67"

def pairs : RangeTable := RangeTable.parse pairTable

/-- The class of a combining mark; zero for all other characters. -/
def classOf (c : Char) : Nat :=
  match classes.value? c with
  | some value => value.foldl (fun n d => 10 * n + (d.toNat - '0'.toNat)) 0
  | none => 0

/-- The two code points of an item. -/
def pairOf (item : RangeItem) : Nat × Nat :=
  (hexNumber (item.value.takeWhile (· != '+')),
    hexNumber ((item.value.dropWhile (· != '+')).drop 1))

/-- The pairs of the table with the character for both. -/
def pairList : Array ((Nat × Nat) × Nat) := pairs.map fun item => (pairOf item, item.first)

/-- The first Hangul syllable. -/
def syllableBase : Nat := 0xAC00

/-- The number of Hangul syllables. -/
def syllableCount : Nat := 11172

/-- The letters of a Hangul syllable: a leading consonant, a vowel, perhaps a trailing consonant. -/
def syllableLetters (n : Nat) : List Nat :=
  let s := n - syllableBase
  let trailing := s % 28
  [0x1100 + s / 588, 0x1161 + s % 588 / 28] ++ if trailing = 0 then [] else [0x11A7 + trailing]

/-- **A code point as a letter with its marks**, decomposed at most `fuel` times over. -/
def decompose : Nat → Nat → List Nat
  | 0, n => [n]
  | fuel + 1, n =>
    if syllableBase ≤ n ∧ n < syllableBase + syllableCount then syllableLetters n
    else
      match pairs.find? n with
      | some item => decompose fuel (pairOf item).1 ++ [(pairOf item).2]
      | none => [n]

/-- How often a character can be decomposed at most. -/
def depth : Nat := 8

/-- A mark put behind all marks of its class and of lower ones; `marks` are in order. -/
def insertMark (mark : Char) : List Char → List Char
  | [] => [mark]
  | m :: rest =>
    if classOf mark < classOf m then mark :: m :: rest else m :: insertMark mark rest

/-- **Marks in order of their classes.** A character of class zero ends a run of marks; `run` holds
the marks since the last such character, in order. -/
def reorder (run : List Char) : List Char → List Char
  | [] => run
  | c :: rest =>
    if classOf c = 0 then run ++ c :: reorder [] rest else reorder (insertMark c run) rest

/-- The Hangul syllable that two characters combine to. -/
def composeSyllable? (a b : Nat) : Option Nat :=
  if 0x1100 ≤ a ∧ a < 0x1113 ∧ 0x1161 ≤ b ∧ b < 0x1176 then
    some (syllableBase + ((a - 0x1100) * 21 + (b - 0x1161)) * 28)
  else if syllableBase ≤ a ∧ a < syllableBase + syllableCount ∧ (a - syllableBase) % 28 = 0
      ∧ 0x11A8 ≤ b ∧ b < 0x11C3 then
    some (a + (b - 0x11A7))
  else none

/-- The character that two characters combine to. -/
def compose? (a b : Char) : Option Char :=
  match composeSyllable? a.toNat b.toNat with
  | some n => some (Char.ofNat n)
  | none => (pairList.find? fun p => p.1 == (a.toNat, b.toNat)).map fun p => Char.ofNat p.2

/-- Characters combined with the starter before them. `starter` is the last character of class
zero, `between` what stands behind it and did not combine, last first. A character combines unless
one of at least its class, or a second starter, stands between. -/
def compose (starter : Option Char) (between : List Char) : List Char → List Char
  | [] => starter.toList ++ between.reverse
  | c :: rest =>
    let blocked := match between with
      | [] => false
      | last :: _ => classOf last == 0 || classOf c ≤ classOf last
    match starter with
    | some s =>
      match if blocked then none else compose? s c with
      | some combined => compose (some combined) between rest
      | none =>
        if classOf c = 0 then s :: (between.reverse ++ compose (some c) [] rest)
        else compose (some s) (c :: between) rest
    | none =>
      if classOf c = 0 then between.reverse ++ compose (some c) [] rest
      else compose none (c :: between) rest

/-- **The composed form.** -/
def normalize (cs : List Char) : List Char :=
  compose none [] (reorder [] ((cs.flatMap fun c => decompose depth c.toNat).map Char.ofNat))

end Composition

/-!
## Joiners

Two invisible characters tell neighbouring letters to join or not to join. They are allowed only
where they make a difference: behind a sign that mutes a vowel, or, for the one that keeps letters
apart, between letters that would join.
-/

namespace Joining

/-- How letters join: on the left, on the right, on both sides; `T` are transparent marks. -/
def table : String :=
  "300..36F=T 483..489=T 591..5BD=T 5BF=T 5C1..5C2=T 5C4..5C5=T 5C7..5CF=T 610..61A=T 620=D
  622..625=R 626=D 627=R 628=D 629=R 62A..62E=D 62F..632=R 633..63F=D 641..647=D 648=R 649..64A=D
  64B..65F=T 66E..66F=D 670=T 671..673=R 679..687=D 688..699=R 69A..6BF=D 6C0=R 6C1..6C2=D
  6C3..6CB=R 6CC=D 6CD=R 6CE=D 6CF=R 6D0..6D1=D 6D2..6D3=R 6D5=R 6D6..6DC=T 6DF..6E4=T 6E7..6E8=T
  6EA..6ED=T 6EE..6EF=R 6FA..6FC=D 6FF=D 710=R 711=T 712..714=D 715..719=R 71A..71D=D 71E=R
  71F..727=D 728=R 729=D 72A=R 72B=D 72C=R 72D..72E=D 72F=R 730..74A=T 74D=R 74E..758=D 759..75B=R
  75C..76A=D 76B..76C=R 76D..770=D 771=R 772=D 773..774=R 775..777=D 778..779=R 77A..77F=D
  7A6..7B0=T 7CA..7EA=D 7EB..7F3=T 7FD=T 816..819=T 81B..823=T 825..827=T 829..82D=T 840=R
  841..845=D 846..847=R 848=D 849=R 84A..853=D 854=R 855=D 856..858=R 859..85B=T 860=D 862..865=D
  867=R 868=D 869..882=R 886=D 889..88D=D 88E=R 88F=D 897..89F=T 8A0..8A9=D 8AA..8AC=R 8AE=R
  8AF..8B0=D 8B1..8B2=R 8B3..8B8=D 8B9=R 8BA..8C8=D 8CA..902=T 93A=T 93C=T 941..948=T 94D=T
  951..957=T 962..963=T 981=T 9BC=T 9C1..9C4=T 9CD=T 9E2..9E3=T 9FE..A02=T A3C=T A41..A51=T
  A70..A71=T A75=T A81..A82=T ABC=T AC1..AC8=T ACD=T AE2..AE3=T AFA..B01=T B3C=T B3F=T B41..B44=T
  B4D..B56=T B62..B63=T B82=T BC0=T BCD=T C00=T C04=T C3C=T C3E..C40=T C46..C56=T C62..C63=T C81=T
  CBC=T CBF=T CC6=T CCC..CCD=T CE2..CE3=T D00..D01=T D3B..D3C=T D41..D44=T D4D=T D62..D63=T D81=T
  DCA=T DD2..DD6=T E31=T E34..E3A=T E47..E4E=T EB1=T EB4..EBC=T EC8..ECE=T F18..F19=T F35=T F37=T
  F39=T F71..F7E=T F80..F84=T F86..F87=T F8D..FBC=T FC6=T 102D..1030=T 1032..1037=T 1039..103A=T
  103D..103E=T 1058..1059=T 105E..1060=T 1071..1074=T 1082=T 1085..1086=T 108D=T 109D=T
  135D..135F=T 1712..1714=T 1732..1733=T 1752..1753=T 1772..1773=T 17B7..17BD=T 17C6=T
  17C9..17D3=T 17DD=T 1807=D 1820..1878=D 1885..1886=T 1887..18A8=D 18A9=T 18AA=D 1920..1922=T
  1927..1928=T 1932=T 1939..193B=T 1A17..1A18=T 1A1B=T 1A56=T 1A58..1A60=T 1A62=T 1A65..1A6C=T
  1A73..1A7F=T 1AB0..1B03=T 1B34=T 1B36..1B39=T 1B3C=T 1B6B..1B73=T 1B80..1B81=T 1BA2..1BA5=T
  1BA8..1BA9=T 1BAB..1BAD=T 1BE6=T 1BE8..1BE9=T 1BED=T 1BEF..1BF1=T 1C2C..1C33=T 1C36..1C37=T
  1CD0..1CD2=T 1CD4..1CE0=T 1CE2..1CE8=T 1CED=T 1CF4=T 1CF8..1CF9=T 1DC0..1DFF=T 20D0..20F0=T
  2CEF..2CF1=T 2D7F=T 2DE0..2DFF=T 302A..302D=T 3099..309A=T A66F..A672=T A674..A67D=T
  A69E..A69F=T A6F0..A6F1=T A802=T A806=T A80B=T A825..A826=T A82C=T A840..A871=D A872=L
  A8C4..A8C5=T A8E0..A8F1=T A8FF=T A926..A92D=T A947..A951=T A980..A982=T A9B3=T A9B6..A9B9=T
  A9BC..A9BD=T A9E5=T AA29..AA2E=T AA31..AA32=T AA35..AA36=T AA43=T AA4C=T AA7C=T AAB0=T
  AAB2..AAB4=T AAB7..AAB8=T AABE..AABF=T AAC1=T AAEC..AAED=T AAF6=T ABE5=T ABE8=T ABED=T FB1E=T
  FE20..FE2F=T 101FD=T 102E0=T 10376..1037A=T 10A01..10A0F=T 10A38..10A3F=T 10AC0..10AC4=D 10AC5=R
  10AC7=R 10AC9..10ACA=R 10ACD=L 10ACE..10AD2=R 10AD3..10AD6=D 10AD7=L 10AD8..10ADC=D 10ADD=R
  10ADE..10AE0=D 10AE1=R 10AE4=R 10AE5..10AE6=T 10AEB..10AEE=D 10AEF=R 10B80=D 10B81=R 10B82=D
  10B83..10B85=R 10B86..10B88=D 10B89=R 10B8A..10B8B=D 10B8C=R 10B8D=D 10B8E..10B8F=R 10B90=D
  10B91=R 10BA9..10BAC=R 10BAD..10BAE=D 10D00=L 10D01..10D21=D 10D22=R 10D23=D 10D24..10D27=T
  10D69..10D6D=T 10EAB..10EAC=T 10EC2=R 10EC3..10EC4=D 10EC6..10EC7=D 10EFA..10EFF=T
  10F30..10F32=D 10F33=R 10F34..10F44=D 10F46..10F50=T 10F51..10F53=D 10F54=R 10F70..10F73=D
  10F74..10F75=R 10F76..10F81=D 10F82..10F85=T 10FB0=D 10FB2..10FB3=D 10FB4..10FB6=R 10FB8=D
  10FB9..10FBA=R 10FBB..10FBC=D 10FBD=R 10FBE..10FBF=D 10FC1=D 10FC2..10FC3=R 10FC4=D 10FC9=R
  10FCA=D 10FCB=L 11001=T 11038..11046=T 11070=T 11073..11074=T 1107F..11081=T 110B3..110B6=T
  110B9..110BA=T 110C2=T 11100..11102=T 11127..1112B=T 1112D..11134=T 11173=T 11180..11181=T
  111B6..111BE=T 111C9..111CC=T 111CF=T 1122F..11231=T 11234=T 11236..11237=T 1123E=T 11241=T
  112DF=T 112E3..112EA=T 11300..11301=T 1133B..1133C=T 11340=T 11366..11374=T 113BB..113C0=T
  113CE=T 113D0=T 113D2=T 113E1..113E2=T 11438..1143F=T 11442..11444=T 11446=T 1145E=T
  114B3..114B8=T 114BA=T 114BF..114C0=T 114C2..114C3=T 115B2..115B5=T 115BC..115BD=T
  115BF..115C0=T 115DC..115DD=T 11633..1163A=T 1163D=T 1163F..11640=T 116AB=T 116AD=T
  116B0..116B5=T 116B7=T 1171D=T 1171F=T 11722..11725=T 11727..1172B=T 1182F..11837=T
  11839..1183A=T 1193B..1193C=T 1193E=T 11943=T 119D4..119DB=T 119E0=T 11A01..11A0A=T
  11A33..11A38=T 11A3B..11A3E=T 11A47=T 11A51..11A56=T 11A59..11A5B=T 11A8A..11A96=T
  11A98..11A99=T 11B60=T 11B62..11B64=T 11B66=T 11C30..11C3D=T 11C3F=T 11C92..11CA7=T
  11CAA..11CB0=T 11CB2..11CB3=T 11CB5..11CB6=T 11D31..11D45=T 11D47=T 11D90..11D91=T 11D95=T
  11D97=T 11DF0..11DFF=T 11EF3..11EF4=T 11F00..11F01=T 11F36..11F3A=T 11F40=T 11F42=T 11F5A=T
  13440=T 13447..13455=T 1611E..16129=T 1612D..1612F=T 16AF0..16AF4=T 16B30..16B36=T 16F4F=T
  16F8F..16F92=T 16FE4=T 1BC9D..1BC9E=T 1CF00..1CF46=T 1D127..1D128=T 1D167..1D169=T
  1D17B..1D182=T 1D185..1D18B=T 1D1AA..1D1AD=T 1D242..1D244=T 1DA00..1DA36=T 1DA3B..1DA6C=T
  1DA75=T 1DA84=T 1DA9B..1DAAF=T 1E000..1E08F=T 1E130..1E136=T 1E2AE=T 1E2EC..1E2EF=T
  1E4EC..1E4EF=T 1E5EE..1E5EF=T 1E6E3=T 1E6E6=T 1E6EE..1E6EF=T 1E6F5=T 1E8D0..1E8D6=T
  1E922..1E943=D 1E944..1E94B=T"

def types : RangeTable := RangeTable.parse table

/-- How a letter joins with its neighbours; `U` if it does not. -/
def joiningType (c : Char) : Char :=
  match types.value? c with
  | some [t] => t
  | _ => 'U'

/-- The character that keeps letters apart. -/
def nonJoiner : Char := '\u200c'

/-- The character that joins letters. -/
def joiner : Char := '\u200d'

/-- The class of the marks that mute a vowel. -/
def muteClass : Nat := 9

/-- Whether the next letter, marks set aside, joins on the side that the two types name. -/
def meets (one both : Char) (neighbours : List Char) : Bool :=
  match neighbours.find? fun c => joiningType c != 'T' with
  | some c => joiningType c == one || joiningType c == both
  | none => false

/-- Whether all joiners of a label are allowed; `before` holds the characters before, last
first. -/
def allowedAfter (before : List Char) : List Char → Bool
  | [] => true
  | c :: rest =>
    let muted := match before with
      | m :: _ => Composition.classOf m == muteClass
      | [] => false
    (if c = joiner then muted
      else if c = nonJoiner then muted || (meets 'L' 'D' before && meets 'R' 'D' rest)
      else true)
      && allowedAfter (c :: before) rest

/-- **Whether all joiners of a label are allowed.** -/
def allowed (label : List Char) : Bool := allowedAfter [] label

end Joining

end HttpLoad
