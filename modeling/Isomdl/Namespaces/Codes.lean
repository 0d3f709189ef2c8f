import Isomdl.Definitions.Traits

/-!
# Country codes and distinguishing signs (`alpha2.rs`, `un_distinguishing_sign.rs`)

Both are closed lists of codes.  A country is read of its code only; a sign takes any text, and
keeps the text that is not a code.
-/

set_option linter.unusedSectionVars false

namespace Isomdl

open Cbor

/-! ## `alpha2.rs` -/

/-- ISO 3166-1 alpha-2 country code; `IO_` is `IO`, which is the name of a monad. -/
inductive Alpha2 where
  | AD | AE | AF | AG | AI | AL | AM | AO | AQ | AR | AS | AT | AU | AW | AX | AZ | BA | BB | BD
  | BE | BF | BG | BH | BI | BJ | BL | BM | BN | BO | BQ | BR | BS | BT | BV | BW | BY | BZ | CA
  | CC | CD | CF | CG | CH | CI | CK | CL | CM | CN | CO | CR | CU | CV | CW | CX | CY | CZ | DE
  | DJ | DK | DM | DO | DZ | EC | EE | EG | EH | ER | ES | ET | FI | FJ | FK | FM | FO | FR | GA
  | GB | GD | GE | GF | GG | GH | GI | GL | GM | GN | GP | GQ | GR | GS | GT | GU | GW | GY | HK
  | HM | HN | HR | HT | HU | ID | IE | IL | IM | IN | IO_ | IQ | IR | IS | IT | JE | JM | JO | JP
  | KE | KG | KH | KI | KM | KN | KP | KR | KW | KY | KZ | LA | LB | LC | LI | LK | LR | LS | LT
  | LU | LV | LY | MA | MC | MD | ME | MF | MG | MH | MK | ML | MM | MN | MO | MP | MQ | MR | MS
  | MT | MU | MV | MW | MX | MY | MZ | NA | NC | NE | NF | NG | NI | NL | NO | NP | NR | NU | NZ
  | OM | PA | PE | PF | PG | PH | PK | PL | PM | PN | PR | PS | PT | PW | PY | QA | RE | RO | RS
  | RU | RW | SA | SB | SC | SD | SE | SG | SH | SI | SJ | SK | SL | SM | SN | SO | SR | SS | ST
  | SV | SX | SY | SZ | TC | TD | TF | TG | TH | TJ | TK | TL | TM | TN | TO | TR | TT | TV | TW
  | TZ | UA | UG | UM | US | UY | UZ | VA | VC | VE | VG | VI | VN | VU | WF | WS | YE | YT | ZA
  | ZM | ZW

namespace Alpha2

def asStr : Alpha2 → String
  | .AD => "AD" | .AE => "AE" | .AF => "AF" | .AG => "AG" | .AI => "AI" | .AL => "AL"
  | .AM => "AM" | .AO => "AO" | .AQ => "AQ" | .AR => "AR" | .AS => "AS" | .AT => "AT"
  | .AU => "AU" | .AW => "AW" | .AX => "AX" | .AZ => "AZ" | .BA => "BA" | .BB => "BB"
  | .BD => "BD" | .BE => "BE" | .BF => "BF" | .BG => "BG" | .BH => "BH" | .BI => "BI"
  | .BJ => "BJ" | .BL => "BL" | .BM => "BM" | .BN => "BN" | .BO => "BO" | .BQ => "BQ"
  | .BR => "BR" | .BS => "BS" | .BT => "BT" | .BV => "BV" | .BW => "BW" | .BY => "BY"
  | .BZ => "BZ" | .CA => "CA" | .CC => "CC" | .CD => "CD" | .CF => "CF" | .CG => "CG"
  | .CH => "CH" | .CI => "CI" | .CK => "CK" | .CL => "CL" | .CM => "CM" | .CN => "CN"
  | .CO => "CO" | .CR => "CR" | .CU => "CU" | .CV => "CV" | .CW => "CW" | .CX => "CX"
  | .CY => "CY" | .CZ => "CZ" | .DE => "DE" | .DJ => "DJ" | .DK => "DK" | .DM => "DM"
  | .DO => "DO" | .DZ => "DZ" | .EC => "EC" | .EE => "EE" | .EG => "EG" | .EH => "EH"
  | .ER => "ER" | .ES => "ES" | .ET => "ET" | .FI => "FI" | .FJ => "FJ" | .FK => "FK"
  | .FM => "FM" | .FO => "FO" | .FR => "FR" | .GA => "GA" | .GB => "GB" | .GD => "GD"
  | .GE => "GE" | .GF => "GF" | .GG => "GG" | .GH => "GH" | .GI => "GI" | .GL => "GL"
  | .GM => "GM" | .GN => "GN" | .GP => "GP" | .GQ => "GQ" | .GR => "GR" | .GS => "GS"
  | .GT => "GT" | .GU => "GU" | .GW => "GW" | .GY => "GY" | .HK => "HK" | .HM => "HM"
  | .HN => "HN" | .HR => "HR" | .HT => "HT" | .HU => "HU" | .ID => "ID" | .IE => "IE"
  | .IL => "IL" | .IM => "IM" | .IN => "IN" | .IO_ => "IO" | .IQ => "IQ" | .IR => "IR"
  | .IS => "IS" | .IT => "IT" | .JE => "JE" | .JM => "JM" | .JO => "JO" | .JP => "JP"
  | .KE => "KE" | .KG => "KG" | .KH => "KH" | .KI => "KI" | .KM => "KM" | .KN => "KN"
  | .KP => "KP" | .KR => "KR" | .KW => "KW" | .KY => "KY" | .KZ => "KZ" | .LA => "LA"
  | .LB => "LB" | .LC => "LC" | .LI => "LI" | .LK => "LK" | .LR => "LR" | .LS => "LS"
  | .LT => "LT" | .LU => "LU" | .LV => "LV" | .LY => "LY" | .MA => "MA" | .MC => "MC"
  | .MD => "MD" | .ME => "ME" | .MF => "MF" | .MG => "MG" | .MH => "MH" | .MK => "MK"
  | .ML => "ML" | .MM => "MM" | .MN => "MN" | .MO => "MO" | .MP => "MP" | .MQ => "MQ"
  | .MR => "MR" | .MS => "MS" | .MT => "MT" | .MU => "MU" | .MV => "MV" | .MW => "MW"
  | .MX => "MX" | .MY => "MY" | .MZ => "MZ" | .NA => "NA" | .NC => "NC" | .NE => "NE"
  | .NF => "NF" | .NG => "NG" | .NI => "NI" | .NL => "NL" | .NO => "NO" | .NP => "NP"
  | .NR => "NR" | .NU => "NU" | .NZ => "NZ" | .OM => "OM" | .PA => "PA" | .PE => "PE"
  | .PF => "PF" | .PG => "PG" | .PH => "PH" | .PK => "PK" | .PL => "PL" | .PM => "PM"
  | .PN => "PN" | .PR => "PR" | .PS => "PS" | .PT => "PT" | .PW => "PW" | .PY => "PY"
  | .QA => "QA" | .RE => "RE" | .RO => "RO" | .RS => "RS" | .RU => "RU" | .RW => "RW"
  | .SA => "SA" | .SB => "SB" | .SC => "SC" | .SD => "SD" | .SE => "SE" | .SG => "SG"
  | .SH => "SH" | .SI => "SI" | .SJ => "SJ" | .SK => "SK" | .SL => "SL" | .SM => "SM"
  | .SN => "SN" | .SO => "SO" | .SR => "SR" | .SS => "SS" | .ST => "ST" | .SV => "SV"
  | .SX => "SX" | .SY => "SY" | .SZ => "SZ" | .TC => "TC" | .TD => "TD" | .TF => "TF"
  | .TG => "TG" | .TH => "TH" | .TJ => "TJ" | .TK => "TK" | .TL => "TL" | .TM => "TM"
  | .TN => "TN" | .TO => "TO" | .TR => "TR" | .TT => "TT" | .TV => "TV" | .TW => "TW"
  | .TZ => "TZ" | .UA => "UA" | .UG => "UG" | .UM => "UM" | .US => "US" | .UY => "UY"
  | .UZ => "UZ" | .VA => "VA" | .VC => "VC" | .VE => "VE" | .VG => "VG" | .VI => "VI"
  | .VN => "VN" | .VU => "VU" | .WF => "WF" | .WS => "WS" | .YE => "YE" | .YT => "YT"
  | .ZA => "ZA" | .ZM => "ZM" | .ZW => "ZW"

/-- the arms of `from_str` -/
def codes : List (String × Alpha2) :=
  [("AD", .AD), ("AE", .AE), ("AF", .AF), ("AG", .AG), ("AI", .AI), ("AL", .AL), ("AM", .AM),
   ("AO", .AO), ("AQ", .AQ), ("AR", .AR), ("AS", .AS), ("AT", .AT), ("AU", .AU), ("AW", .AW),
   ("AX", .AX), ("AZ", .AZ), ("BA", .BA), ("BB", .BB), ("BD", .BD), ("BE", .BE), ("BF", .BF),
   ("BG", .BG), ("BH", .BH), ("BI", .BI), ("BJ", .BJ), ("BL", .BL), ("BM", .BM), ("BN", .BN),
   ("BO", .BO), ("BQ", .BQ), ("BR", .BR), ("BS", .BS), ("BT", .BT), ("BV", .BV), ("BW", .BW),
   ("BY", .BY), ("BZ", .BZ), ("CA", .CA), ("CC", .CC), ("CD", .CD), ("CF", .CF), ("CG", .CG),
   ("CH", .CH), ("CI", .CI), ("CK", .CK), ("CL", .CL), ("CM", .CM), ("CN", .CN), ("CO", .CO),
   ("CR", .CR), ("CU", .CU), ("CV", .CV), ("CW", .CW), ("CX", .CX), ("CY", .CY), ("CZ", .CZ),
   ("DE", .DE), ("DJ", .DJ), ("DK", .DK), ("DM", .DM), ("DO", .DO), ("DZ", .DZ), ("EC", .EC),
   ("EE", .EE), ("EG", .EG), ("EH", .EH), ("ER", .ER), ("ES", .ES), ("ET", .ET), ("FI", .FI),
   ("FJ", .FJ), ("FK", .FK), ("FM", .FM), ("FO", .FO), ("FR", .FR), ("GA", .GA), ("GB", .GB),
   ("GD", .GD), ("GE", .GE), ("GF", .GF), ("GG", .GG), ("GH", .GH), ("GI", .GI), ("GL", .GL),
   ("GM", .GM), ("GN", .GN), ("GP", .GP), ("GQ", .GQ), ("GR", .GR), ("GS", .GS), ("GT", .GT),
   ("GU", .GU), ("GW", .GW), ("GY", .GY), ("HK", .HK), ("HM", .HM), ("HN", .HN), ("HR", .HR),
   ("HT", .HT), ("HU", .HU), ("ID", .ID), ("IE", .IE), ("IL", .IL), ("IM", .IM), ("IN", .IN),
   ("IO", .IO_), ("IQ", .IQ), ("IR", .IR), ("IS", .IS), ("IT", .IT), ("JE", .JE), ("JM", .JM),
   ("JO", .JO), ("JP", .JP), ("KE", .KE), ("KG", .KG), ("KH", .KH), ("KI", .KI), ("KM", .KM),
   ("KN", .KN), ("KP", .KP), ("KR", .KR), ("KW", .KW), ("KY", .KY), ("KZ", .KZ), ("LA", .LA),
   ("LB", .LB), ("LC", .LC), ("LI", .LI), ("LK", .LK), ("LR", .LR), ("LS", .LS), ("LT", .LT),
   ("LU", .LU), ("LV", .LV), ("LY", .LY), ("MA", .MA), ("MC", .MC), ("MD", .MD), ("ME", .ME),
   ("MF", .MF), ("MG", .MG), ("MH", .MH), ("MK", .MK), ("ML", .ML), ("MM", .MM), ("MN", .MN),
   ("MO", .MO), ("MP", .MP), ("MQ", .MQ), ("MR", .MR), ("MS", .MS), ("MT", .MT), ("MU", .MU),
   ("MV", .MV), ("MW", .MW), ("MX", .MX), ("MY", .MY), ("MZ", .MZ), ("NA", .NA), ("NC", .NC),
   ("NE", .NE), ("NF", .NF), ("NG", .NG), ("NI", .NI), ("NL", .NL), ("NO", .NO), ("NP", .NP),
   ("NR", .NR), ("NU", .NU), ("NZ", .NZ), ("OM", .OM), ("PA", .PA), ("PE", .PE), ("PF", .PF),
   ("PG", .PG), ("PH", .PH), ("PK", .PK), ("PL", .PL), ("PM", .PM), ("PN", .PN), ("PR", .PR),
   ("PS", .PS), ("PT", .PT), ("PW", .PW), ("PY", .PY), ("QA", .QA), ("RE", .RE), ("RO", .RO),
   ("RS", .RS), ("RU", .RU), ("RW", .RW), ("SA", .SA), ("SB", .SB), ("SC", .SC), ("SD", .SD),
   ("SE", .SE), ("SG", .SG), ("SH", .SH), ("SI", .SI), ("SJ", .SJ), ("SK", .SK), ("SL", .SL),
   ("SM", .SM), ("SN", .SN), ("SO", .SO), ("SR", .SR), ("SS", .SS), ("ST", .ST), ("SV", .SV),
   ("SX", .SX), ("SY", .SY), ("SZ", .SZ), ("TC", .TC), ("TD", .TD), ("TF", .TF), ("TG", .TG),
   ("TH", .TH), ("TJ", .TJ), ("TK", .TK), ("TL", .TL), ("TM", .TM), ("TN", .TN), ("TO", .TO),
   ("TR", .TR), ("TT", .TT), ("TV", .TV), ("TW", .TW), ("TZ", .TZ), ("UA", .UA), ("UG", .UG),
   ("UM", .UM), ("US", .US), ("UY", .UY), ("UZ", .UZ), ("VA", .VA), ("VC", .VC), ("VE", .VE),
   ("VG", .VG), ("VI", .VI), ("VN", .VN), ("VU", .VU), ("WF", .WF), ("WS", .WS), ("YE", .YE),
   ("YT", .YT), ("ZA", .ZA), ("ZM", .ZM), ("ZW", .ZW)]

def fromStr (s : String) : Except ParsingError Alpha2 :=
  match codes.lookup s with
  | some a => .ok a
  | none => .error (.Unrecognized s)

end Alpha2

instance : ToCbor Alpha2 := ⟨fun a => .text a.asStr⟩

instance : FromJson Alpha2 where
  fromJson := fromText Alpha2.fromStr

/-! ## `un_distinguishing_sign.rs` -/

/-- United Nations Distinguishing Sign, as per ISO/IEC 18013-1:2018 Annex F. -/
inductive UNDistinguishingSign where
  | A | AFG | AL | AM | AND | AUS | AZ | B | BD | BDS | BF | BG | BH | BIH | BOL | BR | BRN | BRU
  | BS | BUR | BVI | BW | BY | CAM | CDN | CH | CI | CL | CO | CR | CU | CY | CZ | D | DK | DOM
  | DY | DZ | E | EAK | EAT | EAU | EAZ | EC | ER | ES | EST | ET | ETH | F | FIN | FJI | FL | FO
  | G | GB | GBA | GBG | GBJ | GBM | GBZ | GCA | GE | GH | GR | GUY | H | HKJ | HR | I | IL | IND
  | IR | IRL | IRQ | IS | J | JA | K | KG | KWT | KZ | L | LAO | LAR | LB | LS | LT | LV | M | MA
  | MAL | MC | MD | MEX | MGL | MK | MNE | MOC | MS | MW | N | NA | NAM | NAU | NEP | NIC | NL
  | NZ | P | PA | PE | PK | PL | PNG | PY | Q | RA | RC | RCA | RCB | RCH | RG | RH | RI | RIM
  | RL | RM | RMM | RN | RNR | RO | ROK | ROU | RP | RSM | RU | RUS | RWA | S | SA | SD | SGP
  | SK | SLO | SME | SN | SO | SRB | SUD | SY | SYR | T | TCH | TD | TG | TJ | TM | TN | TR | TT
  | TZA | UA | UAE | USA | UZ | V | VN | WAG | WAL | WAN | WD | WG | WL | WS | WV | YAR | YV | ZA
  | ZRE | ZW
  | NoneApplicable (s : String)

namespace UNDistinguishingSign

def toString : UNDistinguishingSign → String
  | .A => "A" | .AFG => "AFG" | .AL => "AL" | .AM => "AM" | .AND => "AND" | .AUS => "AUS"
  | .AZ => "AZ" | .B => "B" | .BD => "BD" | .BDS => "BDS" | .BF => "BF" | .BG => "BG"
  | .BH => "BH" | .BIH => "BIH" | .BOL => "BOL" | .BR => "BR" | .BRN => "BRN" | .BRU => "BRU"
  | .BS => "BS" | .BUR => "BUR" | .BVI => "BVI" | .BW => "BW" | .BY => "BY" | .CAM => "CAM"
  | .CDN => "CDN" | .CH => "CH" | .CI => "CI" | .CL => "CL" | .CO => "CO" | .CR => "CR"
  | .CU => "CU" | .CY => "CY" | .CZ => "CZ" | .D => "D" | .DK => "DK" | .DOM => "DOM"
  | .DY => "DY" | .DZ => "DZ" | .E => "E" | .EAK => "EAK" | .EAT => "EAT" | .EAU => "EAU"
  | .EAZ => "EAZ" | .EC => "EC" | .ER => "ER" | .ES => "ES" | .EST => "EST" | .ET => "ET"
  | .ETH => "ETH" | .F => "F" | .FIN => "FIN" | .FJI => "FJI" | .FL => "FL" | .FO => "FO"
  | .G => "G" | .GB => "GB" | .GBA => "GBA" | .GBG => "GBG" | .GBJ => "GBJ" | .GBM => "GBM"
  | .GBZ => "GBZ" | .GCA => "GCA" | .GE => "GE" | .GH => "GH" | .GR => "GR" | .GUY => "GUY"
  | .H => "H" | .HKJ => "HKJ" | .HR => "HR" | .I => "I" | .IL => "IL" | .IND => "IND"
  | .IR => "IR" | .IRL => "IRL" | .IRQ => "IRQ" | .IS => "IS" | .J => "J" | .JA => "JA"
  | .K => "K" | .KG => "KG" | .KWT => "KWT" | .KZ => "KZ" | .L => "L" | .LAO => "LAO"
  | .LAR => "LAR" | .LB => "LB" | .LS => "LS" | .LT => "LT" | .LV => "LV" | .M => "M"
  | .MA => "MA" | .MAL => "MAL" | .MC => "MC" | .MD => "MD" | .MEX => "MEX" | .MGL => "MGL"
  | .MK => "MK" | .MNE => "MNE" | .MOC => "MOC" | .MS => "MS" | .MW => "MW" | .N => "N"
  | .NA => "NA" | .NAM => "NAM" | .NAU => "NAU" | .NEP => "NEP" | .NIC => "NIC" | .NL => "NL"
  | .NZ => "NZ" | .P => "P" | .PA => "PA" | .PE => "PE" | .PK => "PK" | .PL => "PL"
  | .PNG => "PNG" | .PY => "PY" | .Q => "Q" | .RA => "RA" | .RC => "RC" | .RCA => "RCA"
  | .RCB => "RCB" | .RCH => "RCH" | .RG => "RG" | .RH => "RH" | .RI => "RI" | .RIM => "RIM"
  | .RL => "RL" | .RM => "RM" | .RMM => "RMM" | .RN => "RN" | .RNR => "RNR" | .RO => "RO"
  | .ROK => "ROK" | .ROU => "ROU" | .RP => "RP" | .RSM => "RSM" | .RU => "RU" | .RUS => "RUS"
  | .RWA => "RWA" | .S => "S" | .SA => "SA" | .SD => "SD" | .SGP => "SGP" | .SK => "SK"
  | .SLO => "SLO" | .SME => "SME" | .SN => "SN" | .SO => "SO" | .SRB => "SRB" | .SUD => "SUD"
  | .SY => "SY" | .SYR => "SYR" | .T => "T" | .TCH => "TCH" | .TD => "TD" | .TG => "TG"
  | .TJ => "TJ" | .TM => "TM" | .TN => "TN" | .TR => "TR" | .TT => "TT" | .TZA => "TZA"
  | .UA => "UA" | .UAE => "UAE" | .USA => "USA" | .UZ => "UZ" | .V => "V" | .VN => "VN"
  | .WAG => "WAG" | .WAL => "WAL" | .WAN => "WAN" | .WD => "WD" | .WG => "WG" | .WL => "WL"
  | .WS => "WS" | .WV => "WV" | .YAR => "YAR" | .YV => "YV" | .ZA => "ZA" | .ZRE => "ZRE"
  | .ZW => "ZW"
  | .NoneApplicable s => s

/-- the arms of `From<String>` -/
def codes : List (String × UNDistinguishingSign) :=
  [("A", .A), ("AFG", .AFG), ("AL", .AL), ("AM", .AM), ("AND", .AND), ("AUS", .AUS), ("AZ", .AZ),
   ("B", .B), ("BD", .BD), ("BDS", .BDS), ("BF", .BF), ("BG", .BG), ("BH", .BH), ("BIH", .BIH),
   ("BOL", .BOL), ("BR", .BR), ("BRN", .BRN), ("BRU", .BRU), ("BS", .BS), ("BUR", .BUR),
   ("BVI", .BVI), ("BW", .BW), ("BY", .BY), ("CAM", .CAM), ("CDN", .CDN), ("CH", .CH),
   ("CI", .CI), ("CL", .CL), ("CO", .CO), ("CR", .CR), ("CU", .CU), ("CY", .CY), ("CZ", .CZ),
   ("D", .D), ("DK", .DK), ("DOM", .DOM), ("DY", .DY), ("DZ", .DZ), ("E", .E), ("EAK", .EAK),
   ("EAT", .EAT), ("EAU", .EAU), ("EAZ", .EAZ), ("EC", .EC), ("ER", .ER), ("ES", .ES),
   ("EST", .EST), ("ET", .ET), ("ETH", .ETH), ("F", .F), ("FIN", .FIN), ("FJI", .FJI),
   ("FL", .FL), ("FO", .FO), ("G", .G), ("GB", .GB), ("GBA", .GBA), ("GBG", .GBG), ("GBJ", .GBJ),
   ("GBM", .GBM), ("GBZ", .GBZ), ("GCA", .GCA), ("GE", .GE), ("GH", .GH), ("GR", .GR),
   ("GUY", .GUY), ("H", .H), ("HKJ", .HKJ), ("HR", .HR), ("I", .I), ("IL", .IL), ("IND", .IND),
   ("IR", .IR), ("IRL", .IRL), ("IRQ", .IRQ), ("IS", .IS), ("J", .J), ("JA", .JA), ("K", .K),
   ("KG", .KG), ("KWT", .KWT), ("KZ", .KZ), ("L", .L), ("LAO", .LAO), ("LAR", .LAR), ("LB", .LB),
   ("LS", .LS), ("LT", .LT), ("LV", .LV), ("M", .M), ("MA", .MA), ("MAL", .MAL), ("MC", .MC),
   ("MD", .MD), ("MEX", .MEX), ("MGL", .MGL), ("MK", .MK), ("MNE", .MNE), ("MOC", .MOC),
   ("MS", .MS), ("MW", .MW), ("N", .N), ("NA", .NA), ("NAM", .NAM), ("NAU", .NAU), ("NEP", .NEP),
   ("NIC", .NIC), ("NL", .NL), ("NZ", .NZ), ("P", .P), ("PA", .PA), ("PE", .PE), ("PK", .PK),
   ("PL", .PL), ("PNG", .PNG), ("PY", .PY), ("Q", .Q), ("RA", .RA), ("RC", .RC), ("RCA", .RCA),
   ("RCB", .RCB), ("RCH", .RCH), ("RG", .RG), ("RH", .RH), ("RI", .RI), ("RIM", .RIM),
   ("RL", .RL), ("RM", .RM), ("RMM", .RMM), ("RN", .RN), ("RNR", .RNR), ("RO", .RO),
   ("ROK", .ROK), ("ROU", .ROU), ("RP", .RP), ("RSM", .RSM), ("RU", .RU), ("RUS", .RUS),
   ("RWA", .RWA), ("S", .S), ("SA", .SA), ("SD", .SD), ("SGP", .SGP), ("SK", .SK), ("SLO", .SLO),
   ("SME", .SME), ("SN", .SN), ("SO", .SO), ("SRB", .SRB), ("SUD", .SUD), ("SY", .SY),
   ("SYR", .SYR), ("T", .T), ("TCH", .TCH), ("TD", .TD), ("TG", .TG), ("TJ", .TJ), ("TM", .TM),
   ("TN", .TN), ("TR", .TR), ("TT", .TT), ("TZA", .TZA), ("UA", .UA), ("UAE", .UAE),
   ("USA", .USA), ("UZ", .UZ), ("V", .V), ("VN", .VN), ("WAG", .WAG), ("WAL", .WAL),
   ("WAN", .WAN), ("WD", .WD), ("WG", .WG), ("WL", .WL), ("WS", .WS), ("WV", .WV), ("YAR", .YAR),
   ("YV", .YV), ("ZA", .ZA), ("ZRE", .ZRE), ("ZW", .ZW)]

def ofString (s : String) : UNDistinguishingSign :=
  match codes.lookup s with
  | some sign => sign
  | none => .NoneApplicable s

end UNDistinguishingSign

instance : ToCbor UNDistinguishingSign := ⟨fun s => .text s.toString⟩

instance : FromJson UNDistinguishingSign where
  fromJson v := UNDistinguishingSign.ofString <$> (fromJson v : Parsed String)

end Isomdl
