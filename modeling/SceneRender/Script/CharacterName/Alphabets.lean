/-!
# Names of letters

The names of the letters, digits and marks of the alphabets and syllabaries up to
U+1FFF.
`CharacterName.find?` says how the lines are read.
-/

namespace SceneRender.Script.CharacterName

/-- The names up to U+1FFF. -/
def alphabets : String :=
  "@20aSPACEaEXCLAMATION MARKaQUOTATION MARKaNUMBER SIGNaDOLLAR SIGNaPERCENT SIGNaAMPERSAND
aAPOSTROPHEaLEFT PARENTHESISaRIGHT PARENTHESISaASTERISKaPLUS SIGNaCOMMAaHYPHEN-MINUSaFULL STOP
aSOLIDUSaDIGIT ZERObONEbTWObTHREEbFOURbFIVEbSIXbSEVENbEIGHTbNINEaCOLONaSEMICOLONaLESS-THAN SIGN
aEQUALS SIGNaGREATER-THAN SIGNaQUESTION MARKaCOMMERCIAL ATaLATIN CAPITAL LETTER AdBdCdDdEdFdGdHdI
dJdKdLdMdNdOdPdQdRdSdTdUdVdWdXdYdZaLEFT SQUARE BRACKETaREVERSE SOLIDUSaRIGHT SQUARE BRACKET
aCIRCUMFLEX ACCENTaLOW LINEaGRAVE ACCENTaLATIN SMALL LETTER AdBdCdDdEdFdGdHdIdJdKdLdMdNdOdPdQdRdS
dTdUdVdWdXdYdZaLEFT CURLY BRACKETaVERTICAL LINEaRIGHT CURLY BRACKETaTILDE@A0aNO-BREAK SPACE
aINVERTED EXCLAMATION MARKaCENT SIGNaPOUND SIGNaCURRENCY SIGNaYEN SIGNaBROKEN BARaSECTION SIGN
aDIAERESISaCOPYRIGHT SIGNaFEMININE ORDINAL INDICATORaLEFT-POINTING DOUBLE ANGLE QUOTATION MARK
aNOT SIGNaSOFT HYPHENaREGISTERED SIGNaMACRONaDEGREE SIGNaPLUS-MINUS SIGNaSUPERSCRIPT TWObTHREE
aACUTE ACCENTaMICRO SIGNaPILCROW SIGNaMIDDLE DOTaCEDILLAaSUPERSCRIPT ONE
aMASCULINE ORDINAL INDICATORaRIGHT-POINTING DOUBLE ANGLE QUOTATION MARK
aVULGAR FRACTION ONE QUARTERdHALFcTHREE QUARTERSaINVERTED QUESTION MARK
aLATIN CAPITAL LETTER A WITH GRAVEfACUTEfCIRCUMFLEXfTILDEfDIAERESISfRING ABOVEdAEdC WITH CEDILLA
dE WITH GRAVEfACUTEfCIRCUMFLEXfDIAERESISdI WITH GRAVEfACUTEfCIRCUMFLEXfDIAERESISdETHdN WITH TILDE
dO WITH GRAVEfACUTEfCIRCUMFLEXfTILDEfDIAERESISaMULTIPLICATION SIGN
aLATIN CAPITAL LETTER O WITH STROKEdU WITH GRAVEfACUTEfCIRCUMFLEXfDIAERESISdY WITH ACUTEdTHORN
bSMALL LETTER SHARP SdA WITH GRAVEfACUTEfCIRCUMFLEXfTILDEfDIAERESISfRING ABOVEdAEdC WITH CEDILLA
dE WITH GRAVEfACUTEfCIRCUMFLEXfDIAERESISdI WITH GRAVEfACUTEfCIRCUMFLEXfDIAERESISdETHdN WITH TILDE
dO WITH GRAVEfACUTEfCIRCUMFLEXfTILDEfDIAERESISaDIVISION SIGNaLATIN SMALL LETTER O WITH STROKE
dU WITH GRAVEfACUTEfCIRCUMFLEXfDIAERESISdY WITH ACUTEdTHORNdY WITH DIAERESIS
bCAPITAL LETTER A WITH MACRONbSMALL LETTER A WITH MACRONbCAPITAL LETTER A WITH BREVE
bSMALL LETTER A WITH BREVEbCAPITAL LETTER A WITH OGONEKbSMALL LETTER A WITH OGONEK
bCAPITAL LETTER C WITH ACUTEbSMALL LETTER C WITH ACUTEbCAPITAL LETTER C WITH CIRCUMFLEX
bSMALL LETTER C WITH CIRCUMFLEXbCAPITAL LETTER C WITH DOT ABOVEbSMALL LETTER C WITH DOT ABOVE
bCAPITAL LETTER C WITH CARONbSMALL LETTER C WITH CARONbCAPITAL LETTER D WITH CARON
bSMALL LETTER D WITH CARONbCAPITAL LETTER D WITH STROKEbSMALL LETTER D WITH STROKE
bCAPITAL LETTER E WITH MACRONbSMALL LETTER E WITH MACRONbCAPITAL LETTER E WITH BREVE
bSMALL LETTER E WITH BREVEbCAPITAL LETTER E WITH DOT ABOVEbSMALL LETTER E WITH DOT ABOVE
bCAPITAL LETTER E WITH OGONEKbSMALL LETTER E WITH OGONEKbCAPITAL LETTER E WITH CARON
bSMALL LETTER E WITH CARONbCAPITAL LETTER G WITH CIRCUMFLEXbSMALL LETTER G WITH CIRCUMFLEX
bCAPITAL LETTER G WITH BREVEbSMALL LETTER G WITH BREVEbCAPITAL LETTER G WITH DOT ABOVE
bSMALL LETTER G WITH DOT ABOVEbCAPITAL LETTER G WITH CEDILLAbSMALL LETTER G WITH CEDILLA
bCAPITAL LETTER H WITH CIRCUMFLEXbSMALL LETTER H WITH CIRCUMFLEXbCAPITAL LETTER H WITH STROKE
bSMALL LETTER H WITH STROKEbCAPITAL LETTER I WITH TILDEbSMALL LETTER I WITH TILDE
bCAPITAL LETTER I WITH MACRONbSMALL LETTER I WITH MACRONbCAPITAL LETTER I WITH BREVE
bSMALL LETTER I WITH BREVEbCAPITAL LETTER I WITH OGONEKbSMALL LETTER I WITH OGONEK
bCAPITAL LETTER I WITH DOT ABOVEbSMALL LETTER DOTLESS IbCAPITAL LIGATURE IJbSMALL LIGATURE IJ
bCAPITAL LETTER J WITH CIRCUMFLEXbSMALL LETTER J WITH CIRCUMFLEXbCAPITAL LETTER K WITH CEDILLA
bSMALL LETTER K WITH CEDILLAdKRAbCAPITAL LETTER L WITH ACUTEbSMALL LETTER L WITH ACUTE
bCAPITAL LETTER L WITH CEDILLAbSMALL LETTER L WITH CEDILLAbCAPITAL LETTER L WITH CARON
bSMALL LETTER L WITH CARONbCAPITAL LETTER L WITH MIDDLE DOTbSMALL LETTER L WITH MIDDLE DOT
bCAPITAL LETTER L WITH STROKEbSMALL LETTER L WITH STROKEbCAPITAL LETTER N WITH ACUTE
bSMALL LETTER N WITH ACUTEbCAPITAL LETTER N WITH CEDILLAbSMALL LETTER N WITH CEDILLA
bCAPITAL LETTER N WITH CARONbSMALL LETTER N WITH CARONePRECEDED BY APOSTROPHEbCAPITAL LETTER ENG
bSMALL LETTER ENGbCAPITAL LETTER O WITH MACRONbSMALL LETTER O WITH MACRON
bCAPITAL LETTER O WITH BREVEbSMALL LETTER O WITH BREVEbCAPITAL LETTER O WITH DOUBLE ACUTE
bSMALL LETTER O WITH DOUBLE ACUTEbCAPITAL LIGATURE OEbSMALL LIGATURE OE
bCAPITAL LETTER R WITH ACUTEbSMALL LETTER R WITH ACUTEbCAPITAL LETTER R WITH CEDILLA
bSMALL LETTER R WITH CEDILLAbCAPITAL LETTER R WITH CARONbSMALL LETTER R WITH CARON
bCAPITAL LETTER S WITH ACUTEbSMALL LETTER S WITH ACUTEbCAPITAL LETTER S WITH CIRCUMFLEX
bSMALL LETTER S WITH CIRCUMFLEXbCAPITAL LETTER S WITH CEDILLAbSMALL LETTER S WITH CEDILLA
bCAPITAL LETTER S WITH CARONbSMALL LETTER S WITH CARONbCAPITAL LETTER T WITH CEDILLA
bSMALL LETTER T WITH CEDILLAbCAPITAL LETTER T WITH CARONbSMALL LETTER T WITH CARON
bCAPITAL LETTER T WITH STROKEbSMALL LETTER T WITH STROKEbCAPITAL LETTER U WITH TILDE
bSMALL LETTER U WITH TILDEbCAPITAL LETTER U WITH MACRONbSMALL LETTER U WITH MACRON
bCAPITAL LETTER U WITH BREVEbSMALL LETTER U WITH BREVEbCAPITAL LETTER U WITH RING ABOVE
bSMALL LETTER U WITH RING ABOVEbCAPITAL LETTER U WITH DOUBLE ACUTE
bSMALL LETTER U WITH DOUBLE ACUTEbCAPITAL LETTER U WITH OGONEKbSMALL LETTER U WITH OGONEK
bCAPITAL LETTER W WITH CIRCUMFLEXbSMALL LETTER W WITH CIRCUMFLEXbCAPITAL LETTER Y WITH CIRCUMFLEX
bSMALL LETTER Y WITH CIRCUMFLEXbCAPITAL LETTER Y WITH DIAERESISdZ WITH ACUTE
bSMALL LETTER Z WITH ACUTEbCAPITAL LETTER Z WITH DOT ABOVEbSMALL LETTER Z WITH DOT ABOVE
bCAPITAL LETTER Z WITH CARONbSMALL LETTER Z WITH CARONdLONG SdB WITH STROKE
bCAPITAL LETTER B WITH HOOKfTOPBARbSMALL LETTER B WITH TOPBARbCAPITAL LETTER TONE SIX
bSMALL LETTER TONE SIXbCAPITAL LETTER OPEN OdC WITH HOOKbSMALL LETTER C WITH HOOK
bCAPITAL LETTER AFRICAN DdD WITH HOOKfTOPBARbSMALL LETTER D WITH TOPBARdTURNED DELTA
bCAPITAL LETTER REVERSED EdSCHWAdOPEN EdF WITH HOOKbSMALL LETTER F WITH HOOK
bCAPITAL LETTER G WITH HOOKdGAMMAbSMALL LETTER HVbCAPITAL LETTER IOTAdI WITH STROKEdK WITH HOOK
bSMALL LETTER K WITH HOOKdL WITH BARdLAMBDA WITH STROKEbCAPITAL LETTER TURNED MdN WITH LEFT HOOK
bSMALL LETTER N WITH LONG RIGHT LEGbCAPITAL LETTER O WITH MIDDLE TILDEfHORN
bSMALL LETTER O WITH HORNbCAPITAL LETTER OIbSMALL LETTER OIbCAPITAL LETTER P WITH HOOK
bSMALL LETTER P WITH HOOKbLETTER YRbCAPITAL LETTER TONE TWObSMALL LETTER TONE TWO
bCAPITAL LETTER ESHbLETTER REVERSED ESH LOOPbSMALL LETTER T WITH PALATAL HOOK
bCAPITAL LETTER T WITH HOOKbSMALL LETTER T WITH HOOKbCAPITAL LETTER T WITH RETROFLEX HOOK
dU WITH HORNbSMALL LETTER U WITH HORNbCAPITAL LETTER UPSILONdV WITH HOOKdY WITH HOOK
bSMALL LETTER Y WITH HOOKbCAPITAL LETTER Z WITH STROKEbSMALL LETTER Z WITH STROKE
bCAPITAL LETTER EZHeREVERSEDbSMALL LETTER EZH REVERSEDeWITH TAILbLETTER TWO WITH STROKE
bCAPITAL LETTER TONE FIVEbSMALL LETTER TONE FIVEbLETTER INVERTED GLOTTAL STOP WITH STROKEcWYNN
cDENTAL CLICKcLATERAL CLICKcALVEOLAR CLICKcRETROFLEX CLICKbCAPITAL LETTER DZ WITH CARON
dD WITH SMALL LETTER Z WITH CARONbSMALL LETTER DZ WITH CARONbCAPITAL LETTER LJ
dL WITH SMALL LETTER JbSMALL LETTER LJbCAPITAL LETTER NJdN WITH SMALL LETTER JbSMALL LETTER NJ
bCAPITAL LETTER A WITH CARONbSMALL LETTER A WITH CARONbCAPITAL LETTER I WITH CARON
bSMALL LETTER I WITH CARONbCAPITAL LETTER O WITH CARONbSMALL LETTER O WITH CARON
bCAPITAL LETTER U WITH CARONbSMALL LETTER U WITH CARONbCAPITAL LETTER U WITH DIAERESIS AND MACRON
bSMALL LETTER U WITH DIAERESIS AND MACRONbCAPITAL LETTER U WITH DIAERESIS AND ACUTE
bSMALL LETTER U WITH DIAERESIS AND ACUTEbCAPITAL LETTER U WITH DIAERESIS AND CARON
bSMALL LETTER U WITH DIAERESIS AND CARONbCAPITAL LETTER U WITH DIAERESIS AND GRAVE
bSMALL LETTER U WITH DIAERESIS AND GRAVEdTURNED EbCAPITAL LETTER A WITH DIAERESIS AND MACRON
bSMALL LETTER A WITH DIAERESIS AND MACRONbCAPITAL LETTER A WITH DOT ABOVE AND MACRON
bSMALL LETTER A WITH DOT ABOVE AND MACRONbCAPITAL LETTER AE WITH MACRON
bSMALL LETTER AE WITH MACRONbCAPITAL LETTER G WITH STROKEbSMALL LETTER G WITH STROKE
bCAPITAL LETTER G WITH CARONbSMALL LETTER G WITH CARONbCAPITAL LETTER K WITH CARON
bSMALL LETTER K WITH CARONbCAPITAL LETTER O WITH OGONEKbSMALL LETTER O WITH OGONEK
bCAPITAL LETTER O WITH OGONEK AND MACRONbSMALL LETTER O WITH OGONEK AND MACRON
bCAPITAL LETTER EZH WITH CARONbSMALL LETTER EZH WITH CARONdJ WITH CARONbCAPITAL LETTER DZ
dD WITH SMALL LETTER ZbSMALL LETTER DZbCAPITAL LETTER G WITH ACUTEbSMALL LETTER G WITH ACUTE
bCAPITAL LETTER HWAIRdWYNNdN WITH GRAVEbSMALL LETTER N WITH GRAVE
bCAPITAL LETTER A WITH RING ABOVE AND ACUTEbSMALL LETTER A WITH RING ABOVE AND ACUTE
bCAPITAL LETTER AE WITH ACUTEbSMALL LETTER AE WITH ACUTEbCAPITAL LETTER O WITH STROKE AND ACUTE
bSMALL LETTER O WITH STROKE AND ACUTEbCAPITAL LETTER A WITH DOUBLE GRAVE
bSMALL LETTER A WITH DOUBLE GRAVEbCAPITAL LETTER A WITH INVERTED BREVE
bSMALL LETTER A WITH INVERTED BREVEbCAPITAL LETTER E WITH DOUBLE GRAVE
bSMALL LETTER E WITH DOUBLE GRAVEbCAPITAL LETTER E WITH INVERTED BREVE
bSMALL LETTER E WITH INVERTED BREVEbCAPITAL LETTER I WITH DOUBLE GRAVE
bSMALL LETTER I WITH DOUBLE GRAVEbCAPITAL LETTER I WITH INVERTED BREVE
bSMALL LETTER I WITH INVERTED BREVEbCAPITAL LETTER O WITH DOUBLE GRAVE
bSMALL LETTER O WITH DOUBLE GRAVEbCAPITAL LETTER O WITH INVERTED BREVE
bSMALL LETTER O WITH INVERTED BREVEbCAPITAL LETTER R WITH DOUBLE GRAVE
bSMALL LETTER R WITH DOUBLE GRAVEbCAPITAL LETTER R WITH INVERTED BREVE
bSMALL LETTER R WITH INVERTED BREVEbCAPITAL LETTER U WITH DOUBLE GRAVE
bSMALL LETTER U WITH DOUBLE GRAVEbCAPITAL LETTER U WITH INVERTED BREVE
bSMALL LETTER U WITH INVERTED BREVEbCAPITAL LETTER S WITH COMMA BELOW
bSMALL LETTER S WITH COMMA BELOWbCAPITAL LETTER T WITH COMMA BELOWbSMALL LETTER T WITH COMMA BELOW
bCAPITAL LETTER YOGHbSMALL LETTER YOGHbCAPITAL LETTER H WITH CARONbSMALL LETTER H WITH CARON
bCAPITAL LETTER N WITH LONG RIGHT LEGbSMALL LETTER D WITH CURLbCAPITAL LETTER OUbSMALL LETTER OU
bCAPITAL LETTER Z WITH HOOKbSMALL LETTER Z WITH HOOKbCAPITAL LETTER A WITH DOT ABOVE
bSMALL LETTER A WITH DOT ABOVEbCAPITAL LETTER E WITH CEDILLAbSMALL LETTER E WITH CEDILLA
bCAPITAL LETTER O WITH DIAERESIS AND MACRONbSMALL LETTER O WITH DIAERESIS AND MACRON
bCAPITAL LETTER O WITH TILDE AND MACRONbSMALL LETTER O WITH TILDE AND MACRON
bCAPITAL LETTER O WITH DOT ABOVEbSMALL LETTER O WITH DOT ABOVE
bCAPITAL LETTER O WITH DOT ABOVE AND MACRONbSMALL LETTER O WITH DOT ABOVE AND MACRON
bCAPITAL LETTER Y WITH MACRONbSMALL LETTER Y WITH MACRONdL WITH CURLdN WITH CURLdT WITH CURL
dDOTLESS JdDB DIGRAPHdQP DIGRAPHbCAPITAL LETTER A WITH STROKEdC WITH STROKE
bSMALL LETTER C WITH STROKEbCAPITAL LETTER L WITH BARdT WITH DIAGONAL STROKE
bSMALL LETTER S WITH SWASH TAILdZ WITH SWASH TAILbCAPITAL LETTER GLOTTAL STOP
bSMALL LETTER GLOTTAL STOPbCAPITAL LETTER B WITH STROKEdU BARdTURNED VdE WITH STROKE
bSMALL LETTER E WITH STROKEbCAPITAL LETTER J WITH STROKEbSMALL LETTER J WITH STROKE
bCAPITAL LETTER SMALL Q WITH HOOK TAILbSMALL LETTER Q WITH HOOK TAILbCAPITAL LETTER R WITH STROKE
bSMALL LETTER R WITH STROKEbCAPITAL LETTER Y WITH STROKEbSMALL LETTER Y WITH STROKEdTURNED AdALPHA
dTURNED ALPHAdB WITH HOOKdOPEN OdC WITH CURLdD WITH TAILfHOOKdREVERSED EdSCHWAeWITH HOOKdOPEN E
dREVERSED OPEN EgWITH HOOKdCLOSED REVERSED OPEN EdDOTLESS J WITH STROKEdG WITH HOOKdSCRIPT G
bLETTER SMALL CAPITAL GbSMALL LETTER GAMMAdRAMS HORNdTURNED HdH WITH HOOKdHENG WITH HOOK
dI WITH STROKEdIOTAbLETTER SMALL CAPITAL IbSMALL LETTER L WITH MIDDLE TILDEfBELTfRETROFLEX HOOK
dLEZHdTURNED MfWITH LONG LEGdM WITH HOOKdN WITH LEFT HOOKfRETROFLEX HOOKbLETTER SMALL CAPITAL N
bSMALL LETTER BARRED ObLETTER SMALL CAPITAL OEbSMALL LETTER CLOSED OMEGAdPHIdTURNED R
fWITH LONG LEGgHOOKdR WITH LONG LEGfTAILfFISHHOOKdREVERSED R WITH FISHHOOKbLETTER SMALL CAPITAL R
eINVERTED RbSMALL LETTER S WITH HOOKdESHdDOTLESS J WITH STROKE AND HOOKdSQUAT REVERSED ESH
dESH WITH CURLdTURNED TdT WITH RETROFLEX HOOKdU BARdUPSILONdV WITH HOOKdTURNED VeWeY
bLETTER SMALL CAPITAL YbSMALL LETTER Z WITH RETROFLEX HOOKfCURLdEZHeWITH CURLbLETTER GLOTTAL STOP
cPHARYNGEAL VOICED FRICATIVEcINVERTED GLOTTAL STOPcSTRETCHED CcBILABIAL CLICKcSMALL CAPITAL B
bSMALL LETTER CLOSED OPEN EbLETTER SMALL CAPITAL G WITH HOOKeHbSMALL LETTER J WITH CROSSED-TAIL
dTURNED KbLETTER SMALL CAPITAL LbSMALL LETTER Q WITH HOOKbLETTER GLOTTAL STOP WITH STROKE
cREVERSED GLOTTAL STOP WITH STROKEbSMALL LETTER DZ DIGRAPHdDEZH DIGRAPHdDZ DIGRAPH WITH CURL
dTS DIGRAPHdTESH DIGRAPHdTC DIGRAPH WITH CURLdFENG DIGRAPHdLS DIGRAPHdLZ DIGRAPH
bLETTER BILABIAL PERCUSSIVEcBIDENTAL PERCUSSIVEbSMALL LETTER TURNED H WITH FISHHOOKhAND TAIL
aMODIFIER LETTER SMALL HeWITH HOOKdJdRdTURNED RfWITH HOOKdCAPITAL INVERTED RdWdYcPRIME
cDOUBLE PRIMEcTURNED COMMAcAPOSTROPHEcREVERSED COMMAcRIGHT HALF RINGcLEFT HALF RINGcGLOTTAL STOP
cREVERSED GLOTTAL STOPcLEFT ARROWHEADcRIGHT ARROWHEADcUP ARROWHEADcDOWN ARROWHEAD
cCIRCUMFLEX ACCENTaCARONaMODIFIER LETTER VERTICAL LINEcMACRONcACUTE ACCENTcGRAVE ACCENT
cLOW VERTICAL LINEdMACRONdGRAVE ACCENTdACUTE ACCENTcTRIANGULAR COLONcHALF TRIANGULAR COLON
cCENTRED RIGHT HALF RINGdLEFT HALF RINGcUP TACKcDOWN TACKcPLUS SIGNcMINUS SIGNaBREVEaDOT ABOVE
aRING ABOVEaOGONEKaSMALL TILDEaDOUBLE ACUTE ACCENTaMODIFIER LETTER RHOTIC HOOKcCROSS ACCENT
cSMALL GAMMAdLdSdXdREVERSED GLOTTAL STOPcEXTRA-HIGH TONE BARcHIGH TONE BARcMID TONE BAR
cLOW TONE BARcEXTRA-LOW TONE BARcYIN DEPARTING TONE MARKcYANG DEPARTING TONE MARKcVOICING
cUNASPIRATEDcDOUBLE APOSTROPHEcLOW DOWN ARROWHEADdUP ARROWHEADdLEFT ARROWHEADdRIGHT ARROWHEADdRING
cMIDDLE GRAVE ACCENTdDOUBLE GRAVE ACCENTeACUTE ACCENTcLOW TILDEcRAISED COLONcBEGIN HIGH TONE
cEND HIGH TONEcBEGIN LOW TONEcEND LOW TONEcSHELFcOPEN SHELFcLOW LEFT ARROWaCOMBINING GRAVE ACCENT
bACUTE ACCENTbCIRCUMFLEX ACCENTbTILDEbMACRONbOVERLINEbBREVEbDOT ABOVEbDIAERESISbHOOK ABOVE
bRING ABOVEbDOUBLE ACUTE ACCENTbCARONbVERTICAL LINE ABOVEbDOUBLE VERTICAL LINE ABOVEcGRAVE ACCENT
bCANDRABINDUbINVERTED BREVEbTURNED COMMA ABOVEbCOMMA ABOVEbREVERSED COMMA ABOVEbCOMMA ABOVE RIGHT
bGRAVE ACCENT BELOWbACUTE ACCENT BELOWbLEFT TACK BELOWbRIGHT TACK BELOWbLEFT ANGLE ABOVEbHORN
bLEFT HALF RING BELOWbUP TACK BELOWbDOWN TACK BELOWbPLUS SIGN BELOWbMINUS SIGN BELOW
bPALATALIZED HOOK BELOWbRETROFLEX HOOK BELOWbDOT BELOWbDIAERESIS BELOWbRING BELOWbCOMMA BELOW
bCEDILLAbOGONEKbVERTICAL LINE BELOWbBRIDGE BELOWbINVERTED DOUBLE ARCH BELOWbCARON BELOW
bCIRCUMFLEX ACCENT BELOWbBREVE BELOWbINVERTED BREVE BELOWbTILDE BELOWbMACRON BELOWbLOW LINE
bDOUBLE LOW LINEbTILDE OVERLAYbSHORT STROKE OVERLAYbLONG STROKE OVERLAYbSHORT SOLIDUS OVERLAY
bLONG SOLIDUS OVERLAYbRIGHT HALF RING BELOWbINVERTED BRIDGE BELOWbSQUARE BELOWbSEAGULL BELOW
bX ABOVEbVERTICAL TILDEbDOUBLE OVERLINEbGRAVE TONE MARKbACUTE TONE MARKbGREEK PERISPOMENIcKORONIS
cDIALYTIKA TONOScYPOGEGRAMMENIbBRIDGE ABOVEbEQUALS SIGN BELOWbDOUBLE VERTICAL LINE BELOW
bLEFT ANGLE BELOWbNOT TILDE ABOVEbHOMOTHETIC ABOVEbALMOST EQUAL TO ABOVEbLEFT RIGHT ARROW BELOW
bUPWARDS ARROW BELOWbGRAPHEME JOINERbRIGHT ARROWHEAD ABOVEbLEFT HALF RING ABOVEbFERMATAbX BELOW
bLEFT ARROWHEAD BELOWbRIGHT ARROWHEAD BELOWdAND UP ARROWHEAD BELOWcHALF RING ABOVEbDOT ABOVE RIGHT
bASTERISK BELOWbDOUBLE RING BELOWbZIGZAG ABOVEbDOUBLE BREVE BELOWcBREVEcMACRONdBELOWcTILDE
cINVERTED BREVEcRIGHTWARDS ARROW BELOWbLATIN SMALL LETTER AeEeIeOeUeCeDeHeMeReTeVeX
aGREEK CAPITAL LETTER HETAbSMALL LETTER HETAbCAPITAL LETTER ARCHAIC SAMPI
bSMALL LETTER ARCHAIC SAMPIbNUMERAL SIGNbLOWER NUMERAL SIGNbCAPITAL LETTER PAMPHYLIAN DIGAMMA
bSMALL LETTER PAMPHYLIAN DIGAMMA@37AbYPOGEGRAMMENIbSMALL REVERSED LUNATE SIGMA SYMBOL
cDOTTED LUNATE SIGMA SYMBOLcREVERSED DOTTED LUNATE SIGMA SYMBOLbQUESTION MARKbCAPITAL LETTER YOT
@384bTONOSbDIALYTIKA TONOSbCAPITAL LETTER ALPHA WITH TONOSbANO TELEIA
bCAPITAL LETTER EPSILON WITH TONOSdETA WITH TONOSdIOTA WITH TONOS@38CdOMICRON WITH TONOS
@38EdUPSILON WITH TONOSdOMEGA WITH TONOSbSMALL LETTER IOTA WITH DIALYTIKA AND TONOS
bCAPITAL LETTER ALPHAdBETAdGAMMAdDELTAdEPSILONdZETAdETAdTHETAdIOTAdKAPPAdLAMDAdMUdNUdXIdOMICRONdPI
dRHO@3A3dSIGMAdTAUdUPSILONdPHIdCHIdPSIdOMEGAdIOTA WITH DIALYTIKAdUPSILON WITH DIALYTIKA
bSMALL LETTER ALPHA WITH TONOSdEPSILON WITH TONOSdETA WITH TONOSdIOTA WITH TONOS
dUPSILON WITH DIALYTIKA AND TONOSdALPHAdBETAdGAMMAdDELTAdEPSILONdZETAdETAdTHETAdIOTAdKAPPAdLAMDA
dMUdNUdXIdOMICRONdPIdRHOdFINAL SIGMAdSIGMAdTAUdUPSILONdPHIdCHIdPSIdOMEGAdIOTA WITH DIALYTIKA
dUPSILON WITH DIALYTIKAdOMICRON WITH TONOSdUPSILON WITH TONOSdOMEGA WITH TONOSbCAPITAL KAI SYMBOL
bBETA SYMBOLbTHETA SYMBOLbUPSILON WITH HOOK SYMBOLdACUTE AND HOOK SYMBOLdDIAERESIS AND HOOK SYMBOL
bPHI SYMBOLbPI SYMBOLbKAI SYMBOLbLETTER ARCHAIC KOPPAbSMALL LETTER ARCHAIC KOPPAbLETTER STIGMA
bSMALL LETTER STIGMAbLETTER DIGAMMAbSMALL LETTER DIGAMMAbLETTER KOPPAbSMALL LETTER KOPPA
bLETTER SAMPIbSMALL LETTER SAMPIaCOPTIC CAPITAL LETTER SHEIbSMALL LETTER SHEIbCAPITAL LETTER FEI
bSMALL LETTER FEIbCAPITAL LETTER KHEIbSMALL LETTER KHEIbCAPITAL LETTER HORIbSMALL LETTER HORI
bCAPITAL LETTER GANGIAbSMALL LETTER GANGIAbCAPITAL LETTER SHIMAbSMALL LETTER SHIMA
bCAPITAL LETTER DEIbSMALL LETTER DEIaGREEK KAPPA SYMBOLbRHO SYMBOLbLUNATE SIGMA SYMBOLbLETTER YOT
bCAPITAL THETA SYMBOLbLUNATE EPSILON SYMBOLbREVERSED LUNATE EPSILON SYMBOLbCAPITAL LETTER SHO
bSMALL LETTER SHObCAPITAL LUNATE SIGMA SYMBOLcLETTER SANbSMALL LETTER SANbRHO WITH STROKE SYMBOL
bCAPITAL REVERSED LUNATE SIGMA SYMBOLcDOTTED LUNATE SIGMA SYMBOL
cREVERSED DOTTED LUNATE SIGMA SYMBOLaCYRILLIC CAPITAL LETTER IE WITH GRAVEdIOdDJEdGJEdUKRAINIAN IE
dDZEdBYELORUSSIAN-UKRAINIAN IdYIdJEdLJEdNJEdTSHEdKJEdI WITH GRAVEdSHORT UdDZHEdAdBEdVEdGHEdDEdIE
dZHEdZEdIdSHORT IdKAdELdEMdENdOdPEdERdESdTEdUdEFdHAdTSEdCHEdSHAdSHCHAdHARD SIGNdYERUdSOFT SIGNdE
dYUdYAbSMALL LETTER AdBEdVEdGHEdDEdIEdZHEdZEdIdSHORT IdKAdELdEMdENdOdPEdERdESdTEdUdEFdHAdTSEdCHE
dSHAdSHCHAdHARD SIGNdYERUdSOFT SIGNdEdYUdYAdIE WITH GRAVEdIOdDJEdGJEdUKRAINIAN IEdDZE
dBYELORUSSIAN-UKRAINIAN IdYIdJEdLJEdNJEdTSHEdKJEdI WITH GRAVEdSHORT UdDZHEbCAPITAL LETTER OMEGA
bSMALL LETTER OMEGAbCAPITAL LETTER YATbSMALL LETTER YATbCAPITAL LETTER IOTIFIED E
bSMALL LETTER IOTIFIED EbCAPITAL LETTER LITTLE YUSbSMALL LETTER LITTLE YUS
bCAPITAL LETTER IOTIFIED LITTLE YUSbSMALL LETTER IOTIFIED LITTLE YUSbCAPITAL LETTER BIG YUS
bSMALL LETTER BIG YUSbCAPITAL LETTER IOTIFIED BIG YUSbSMALL LETTER IOTIFIED BIG YUS
bCAPITAL LETTER KSIbSMALL LETTER KSIbCAPITAL LETTER PSIbSMALL LETTER PSIbCAPITAL LETTER FITA
bSMALL LETTER FITAbCAPITAL LETTER IZHITSAbSMALL LETTER IZHITSA
bCAPITAL LETTER IZHITSA WITH DOUBLE GRAVE ACCENTbSMALL LETTER IZHITSA WITH DOUBLE GRAVE ACCENT
bCAPITAL LETTER UKbSMALL LETTER UKbCAPITAL LETTER ROUND OMEGAbSMALL LETTER ROUND OMEGA
bCAPITAL LETTER OMEGA WITH TITLObSMALL LETTER OMEGA WITH TITLObCAPITAL LETTER OTbSMALL LETTER OT
bCAPITAL LETTER KOPPAbSMALL LETTER KOPPAbTHOUSANDS SIGNaCOMBINING CYRILLIC TITLOcPALATALIZATION
cDASIA PNEUMATAcPSILI PNEUMATAcPOKRYTIEcHUNDRED THOUSANDS SIGNcMILLIONS SIGN
aCYRILLIC CAPITAL LETTER SHORT I WITH TAILbSMALL LETTER SHORT I WITH TAIL
bCAPITAL LETTER SEMISOFT SIGNbSMALL LETTER SEMISOFT SIGNbCAPITAL LETTER ER WITH TICK
bSMALL LETTER ER WITH TICKbCAPITAL LETTER GHE WITH UPTURNbSMALL LETTER GHE WITH UPTURN
bCAPITAL LETTER GHE WITH STROKEbSMALL LETTER GHE WITH STROKEbCAPITAL LETTER GHE WITH MIDDLE HOOK
bSMALL LETTER GHE WITH MIDDLE HOOKbCAPITAL LETTER ZHE WITH DESCENDER
bSMALL LETTER ZHE WITH DESCENDERbCAPITAL LETTER ZE WITH DESCENDERbSMALL LETTER ZE WITH DESCENDER
bCAPITAL LETTER KA WITH DESCENDERbSMALL LETTER KA WITH DESCENDER
bCAPITAL LETTER KA WITH VERTICAL STROKEbSMALL LETTER KA WITH VERTICAL STROKE
bCAPITAL LETTER KA WITH STROKEbSMALL LETTER KA WITH STROKEbCAPITAL LETTER BASHKIR KA
bSMALL LETTER BASHKIR KAbCAPITAL LETTER EN WITH DESCENDERbSMALL LETTER EN WITH DESCENDER
bCAPITAL LIGATURE EN GHEbSMALL LIGATURE EN GHEbCAPITAL LETTER PE WITH MIDDLE HOOK
bSMALL LETTER PE WITH MIDDLE HOOKbCAPITAL LETTER ABKHASIAN HAbSMALL LETTER ABKHASIAN HA
bCAPITAL LETTER ES WITH DESCENDERbSMALL LETTER ES WITH DESCENDERbCAPITAL LETTER TE WITH DESCENDER
bSMALL LETTER TE WITH DESCENDERbCAPITAL LETTER STRAIGHT UbSMALL LETTER STRAIGHT U
bCAPITAL LETTER STRAIGHT U WITH STROKEbSMALL LETTER STRAIGHT U WITH STROKE
bCAPITAL LETTER HA WITH DESCENDERbSMALL LETTER HA WITH DESCENDERbCAPITAL LIGATURE TE TSE
bSMALL LIGATURE TE TSEbCAPITAL LETTER CHE WITH DESCENDERbSMALL LETTER CHE WITH DESCENDER
bCAPITAL LETTER CHE WITH VERTICAL STROKEbSMALL LETTER CHE WITH VERTICAL STROKEbCAPITAL LETTER SHHA
bSMALL LETTER SHHAbCAPITAL LETTER ABKHASIAN CHEbSMALL LETTER ABKHASIAN CHE
bCAPITAL LETTER ABKHASIAN CHE WITH DESCENDERbSMALL LETTER ABKHASIAN CHE WITH DESCENDER
bLETTER PALOCHKAbCAPITAL LETTER ZHE WITH BREVEbSMALL LETTER ZHE WITH BREVE
bCAPITAL LETTER KA WITH HOOKbSMALL LETTER KA WITH HOOKbCAPITAL LETTER EL WITH TAIL
bSMALL LETTER EL WITH TAILbCAPITAL LETTER EN WITH HOOKbSMALL LETTER EN WITH HOOK
bCAPITAL LETTER EN WITH TAILbSMALL LETTER EN WITH TAILbCAPITAL LETTER KHAKASSIAN CHE
bSMALL LETTER KHAKASSIAN CHEbCAPITAL LETTER EM WITH TAILbSMALL LETTER EM WITH TAILdPALOCHKA
bCAPITAL LETTER A WITH BREVEbSMALL LETTER A WITH BREVEbCAPITAL LETTER A WITH DIAERESIS
bSMALL LETTER A WITH DIAERESISbCAPITAL LIGATURE A IEbSMALL LIGATURE A IE
bCAPITAL LETTER IE WITH BREVEbSMALL LETTER IE WITH BREVEbCAPITAL LETTER SCHWAbSMALL LETTER SCHWA
bCAPITAL LETTER SCHWA WITH DIAERESISbSMALL LETTER SCHWA WITH DIAERESIS
bCAPITAL LETTER ZHE WITH DIAERESISbSMALL LETTER ZHE WITH DIAERESIS
bCAPITAL LETTER ZE WITH DIAERESISbSMALL LETTER ZE WITH DIAERESISbCAPITAL LETTER ABKHASIAN DZE
bSMALL LETTER ABKHASIAN DZEbCAPITAL LETTER I WITH MACRONbSMALL LETTER I WITH MACRON
bCAPITAL LETTER I WITH DIAERESISbSMALL LETTER I WITH DIAERESISbCAPITAL LETTER O WITH DIAERESIS
bSMALL LETTER O WITH DIAERESISbCAPITAL LETTER BARRED ObSMALL LETTER BARRED O
bCAPITAL LETTER BARRED O WITH DIAERESISbSMALL LETTER BARRED O WITH DIAERESIS
bCAPITAL LETTER E WITH DIAERESISbSMALL LETTER E WITH DIAERESISbCAPITAL LETTER U WITH MACRON
bSMALL LETTER U WITH MACRONbCAPITAL LETTER U WITH DIAERESISbSMALL LETTER U WITH DIAERESIS
bCAPITAL LETTER U WITH DOUBLE ACUTEbSMALL LETTER U WITH DOUBLE ACUTE
bCAPITAL LETTER CHE WITH DIAERESISbSMALL LETTER CHE WITH DIAERESIS
bCAPITAL LETTER GHE WITH DESCENDERbSMALL LETTER GHE WITH DESCENDER
bCAPITAL LETTER YERU WITH DIAERESISbSMALL LETTER YERU WITH DIAERESIS
bCAPITAL LETTER GHE WITH STROKE AND HOOKbSMALL LETTER GHE WITH STROKE AND HOOK
bCAPITAL LETTER HA WITH HOOKbSMALL LETTER HA WITH HOOKbCAPITAL LETTER HA WITH STROKE
bSMALL LETTER HA WITH STROKEbCAPITAL LETTER KOMI DEbSMALL LETTER KOMI DEbCAPITAL LETTER KOMI DJE
bSMALL LETTER KOMI DJEbCAPITAL LETTER KOMI ZJEbSMALL LETTER KOMI ZJEbCAPITAL LETTER KOMI DZJE
bSMALL LETTER KOMI DZJEbCAPITAL LETTER KOMI LJEbSMALL LETTER KOMI LJEbCAPITAL LETTER KOMI NJE
bSMALL LETTER KOMI NJEbCAPITAL LETTER KOMI SJEbSMALL LETTER KOMI SJEbCAPITAL LETTER KOMI TJE
bSMALL LETTER KOMI TJEbCAPITAL LETTER REVERSED ZEbSMALL LETTER REVERSED ZE
bCAPITAL LETTER EL WITH HOOKbSMALL LETTER EL WITH HOOKbCAPITAL LETTER LHAbSMALL LETTER LHA
bCAPITAL LETTER RHAbSMALL LETTER RHAbCAPITAL LETTER YAEbSMALL LETTER YAEbCAPITAL LETTER QA
bSMALL LETTER QAbCAPITAL LETTER WEbSMALL LETTER WEbCAPITAL LETTER ALEUT KAbSMALL LETTER ALEUT KA
bCAPITAL LETTER EL WITH MIDDLE HOOKbSMALL LETTER EL WITH MIDDLE HOOK
bCAPITAL LETTER EN WITH MIDDLE HOOKbSMALL LETTER EN WITH MIDDLE HOOK
bCAPITAL LETTER PE WITH DESCENDERbSMALL LETTER PE WITH DESCENDER
bCAPITAL LETTER SHHA WITH DESCENDERbSMALL LETTER SHHA WITH DESCENDER
bCAPITAL LETTER EN WITH LEFT HOOKbSMALL LETTER EN WITH LEFT HOOKbCAPITAL LETTER DZZHE
bSMALL LETTER DZZHEbCAPITAL LETTER DCHEbSMALL LETTER DCHEbCAPITAL LETTER EL WITH DESCENDER
bSMALL LETTER EL WITH DESCENDER@531aARMENIAN CAPITAL LETTER AYBdBENdGIMdDAdECHdZAdEHdETdTOdZHEdINI
dLIWNdXEHdCAdKENdHOdJAdGHADdCHEHdMENdYIdNOWdSHAdVOdCHAdPEHdJHEHdRAdSEHdVEWdTIWNdREHdCOdYIWNdPIWR
dKEHdOHdFEH@559bMODIFIER LETTER LEFT HALF RINGbAPOSTROPHEbEMPHASIS MARKbEXCLAMATION MARKbCOMMA
bQUESTION MARKbABBREVIATION MARKbSMALL LETTER TURNED AYBdAYBdBENdGIMdDAdECHdZAdEHdETdTOdZHEdINI
dLIWNdXEHdCAdKENdHOdJAdGHADdCHEHdMENdYIdNOWdSHAdVOdCHAdPEHdJHEHdRAdSEHdVEWdTIWNdREHdCOdYIWNdPIWR
dKEHdOHdFEHcLIGATURE ECH YIWNcLETTER YI WITH STROKEbFULL STOPbHYPHEN
@58DaRIGHT-FACING ARMENIAN ETERNITY SIGNaLEFT-FACING ARMENIAN ETERNITY SIGNaARMENIAN DRAM SIGN
@591aHEBREW ACCENT ETNAHTAcSEGOLcSHALSHELETcZAQEF QATANdGADOLcTIPEHAcREVIAcZARQAcPASHTAcYETIV
cTEVIRcGERESHdMUQDAMcGERSHAYIMcQARNEY PARAcTELISHA GEDOLAcPAZERcATNAH HAFUKHcMUNAHcMAHAPAKHcMERKHA
dKEFULAcDARGAcQADMAcTELISHA QETANAcYERAH BEN YOMOcOLEcILUYcDEHIcZINORbMARK MASORA CIRCLE
bPOINT SHEVAcHATAF SEGOLdPATAHdQAMATScHIRIQcTSEREcSEGOLcPATAHcQAMATScHOLAMdHASER FOR VAVcQUBUTS
cDAGESH OR MAPIQcMETEGbPUNCTUATION MAQAFbPOINT RAFEbPUNCTUATION PASEQbPOINT SHIN DOTcSIN DOT
bPUNCTUATION SOF PASUQbMARK UPPER DOTcLOWER DOTbPUNCTUATION NUN HAFUKHAbPOINT QAMATS QATAN
@5D0bLETTER ALEFcBETcGIMELcDALETcHEcVAVcZAYINcHETcTETcYODcFINAL KAFcKAFcLAMEDcFINAL MEMcMEM
cFINAL NUNcNUNcSAMEKHcAYINcFINAL PEcPEcFINAL TSADIcTSADIcQOFcRESHcSHINcTAV@5EFbYOD TRIANGLE
bLIGATURE YIDDISH DOUBLE VAVdVAV YODdDOUBLE YODbPUNCTUATION GERESHcGERSHAYIM
@600aARABIC NUMBER SIGNbSIGN SANAHbFOOTNOTE MARKERbSIGN SAFHAcSAMVATbNUMBER MARK ABOVE
aARABIC-INDIC CUBE ROOTbFOURTH ROOTaARABIC RAYaARABIC-INDIC PER MILLE SIGNcTEN THOUSAND SIGN
aAFGHANI SIGNaARABIC COMMAbDATE SEPARATORbPOETIC VERSE SIGNbSIGN MISRA
cSALLALLAHOU ALAYHE WASSALLAMcALAYHE ASSALLAMcRAHMATULLAH ALAYHEcRADI ALLAHOU ANHUcTAKHALLUS
bSMALL HIGH TAHdLIGATURE ALEF WITH LAM WITH YEHdZAINcFATHAcDAMMAcKASRAbSEMICOLONbLETTER MARK
bEND OF TEXT MARKbTRIPLE DOT PUNCTUATION MARKbQUESTION MARKbLETTER KASHMIRI YEHcHAMZA
cALEF WITH MADDA ABOVEeHAMZA ABOVEcWAW WITH HAMZA ABOVEcALEF WITH HAMZA BELOWcYEH WITH HAMZA ABOVE
cALEFcBEHcTEH MARBUTAcTEHcTHEHcJEEMcHAHcKHAHcDALcTHALcREHcZAINcSEENcSHEENcSADcDADcTAHcZAHcAIN
cGHAINcKEHEH WITH TWO DOTS ABOVEeTHREE DOTS BELOWcFARSI YEH WITH INVERTED VfTWO DOTS ABOVE
fTHREE DOTS ABOVEbTATWEELbLETTER FEHcQAFcKAFcLAMcMEEMcNOONcHEHcWAWcALEF MAKSURAcYEHbFATHATAN
bDAMMATANbKASRATANbFATHAbDAMMAbKASRAbSHADDAbSUKUNbMADDAH ABOVEbHAMZA ABOVEcBELOWbSUBSCRIPT ALEF
bINVERTED DAMMAbMARK NOON GHUNNAbZWARAKAYbVOWEL SIGN SMALL V ABOVEdINVERTED SMALL V ABOVE
dDOT BELOWbREVERSED DAMMAbFATHA WITH TWO DOTSbWAVY HAMZA BELOWaARABIC-INDIC DIGIT ZEROcONEcTWO
cTHREEcFOURcFIVEcSIXcSEVENcEIGHTcNINEaARABIC PERCENT SIGNbDECIMAL SEPARATORbTHOUSANDS SEPARATOR
bFIVE POINTED STARbLETTER DOTLESS BEHdQAFcSUPERSCRIPT ALEFcALEF WASLAdWITH WAVY HAMZA ABOVEgBELOW
cHIGH HAMZAeALEFeWAWcU WITH HAMZA ABOVEcHIGH HAMZA YEHcTTEHcTTEHEHcBEEHcTEH WITH RING
eTHREE DOTS ABOVE DOWNWARDScPEHcTEHEHcBEHEHcHAH WITH HAMZA ABOVEeTWO DOTS VERTICAL ABOVEcNYEHcDYEH
cHAH WITH THREE DOTS ABOVEcTCHEHcTCHEHEHcDDALcDAL WITH RINGeDOT BELOWgAND SMALL TAHcDAHALcDDAHAL
cDULcDAL WITH THREE DOTS ABOVE DOWNWARDSeFOUR DOTS ABOVEcRREHcREH WITH SMALL VeRINGeDOT BELOW
eSMALL V BELOWeDOT BELOW AND DOT ABOVEeTWO DOTS ABOVEcJEHcREH WITH FOUR DOTS ABOVE
cSEEN WITH DOT BELOW AND DOT ABOVEeTHREE DOTS BELOWhAND THREE DOTS ABOVEcSAD WITH TWO DOTS BELOW
eTHREE DOTS ABOVEcTAH WITH THREE DOTS ABOVEcAIN WITH THREE DOTS ABOVEcDOTLESS FEH
cFEH WITH DOT MOVED BELOWfBELOWcVEHcFEH WITH THREE DOTS BELOWcPEHEHcQAF WITH DOT ABOVE
eTHREE DOTS ABOVEcKEHEHcSWASH KAFcKAF WITH RINGeDOT ABOVEcNGcKAF WITH THREE DOTS BELOWcGAF
dWITH RINGcNGOEHcGAF WITH TWO DOTS BELOWcGUEHcGAF WITH THREE DOTS ABOVEcLAM WITH SMALL VeDOT ABOVE
eTHREE DOTS ABOVEgBELOWcNOON WITH DOT BELOWdGHUNNAcRNOONcNOON WITH RINGeTHREE DOTS ABOVE
cHEH DOACHASHMEEcTCHEH WITH DOT ABOVEcHEH WITH YEH ABOVEdGOALeWITH HAMZA ABOVEcTEH MARBUTA GOAL
cWAW WITH RINGcKIRGHIZ OEcOEcUcYUcKIRGHIZ YUcWAW WITH TWO DOTS ABOVEcVEcFARSI YEHcYEH WITH TAIL
eSMALL VcWAW WITH DOT ABOVEcEcYEH WITH THREE DOTS BELOWdBARREEeWITH HAMZA ABOVEbFULL STOP
bLETTER AEbSMALL HIGH LIGATURE SAD WITH LAM WITH ALEF MAKSURAeQAF WITH LAM WITH ALEF MAKSURA
dMEEM INITIAL FORMdLAM ALEFdJEEMdTHREE DOTSdSEENbEND OF AYAHbSTART OF RUB EL HIZB
bSMALL HIGH ROUNDED ZEROdUPRIGHT RECTANGULAR ZEROdDOTLESS HEAD OF KHAHdMEEM ISOLATED FORMcLOW SEEN
cHIGH MADDAcWAWcYEHcHIGH YEHdNOONbPLACE OF SAJDAHbEMPTY CENTRE LOW STOPdHIGH STOP
bROUNDED HIGH STOP WITH FILLED CENTREbSMALL LOW MEEMbLETTER DAL WITH INVERTED V
cREH WITH INVERTED VaEXTENDED ARABIC-INDIC DIGIT ZEROdONEdTWOdTHREEdFOURdFIVEdSIXdSEVENdEIGHTdNINE
aARABIC LETTER SHEEN WITH DOT BELOWcDAD WITH DOT BELOWcGHAIN WITH DOT BELOWbSIGN SINDHI AMPERSAND
dPOSTPOSITION MENbLETTER HEH WITH INVERTED VaSYRIAC END OF PARAGRAPHbSUPRALINEAR FULL STOP
bSUBLINEAR FULL STOPbSUPRALINEAR COLONbSUBLINEAR COLONbHORIZONTAL COLONbCOLON SKEWED LEFTdRIGHT
bSUPRALINEAR COLON SKEWED LEFTbSUBLINEAR COLON SKEWED RIGHTbCONTRACTIONbHARKLEAN OBELUScMETOBELUS
cASTERISCUS@70FbABBREVIATION MARKbLETTER ALAPHcSUPERSCRIPT ALAPHcBETHcGAMALdGARSHUNIcDALATH
cDOTLESS DALATH RISHcHEcWAWcZAINcHETHcTETHdGARSHUNIcYUDHdHEcKAPHcLAMADHcMIMcNUNcSEMKATH
cFINAL SEMKATHcEcPEcREVERSED PEcSADHEcQAPHcRISHcSHINcTAWcPERSIAN BHETHdGHAMALdDHALATHbPTHAHA ABOVE
cBELOWcDOTTEDbZQAPHA ABOVEcBELOWcDOTTEDbRBASA ABOVEcBELOWbDOTTED ZLAMA HORIZONTALdANGULAR
bHBASA ABOVEcBELOWbHBASA-ESASA DOTTEDbESASA ABOVEcBELOWbRWAHAbFEMININE DOTbQUSHSHAYAbRUKKAKHA
bTWO VERTICAL DOTS ABOVEeBELOWbTHREE DOTS ABOVEdBELOWbOBLIQUE LINE ABOVEdBELOWbMUSICbBARREKH
@74DbLETTER SOGDIAN ZHAINdKHAPHdFEaARABIC LETTER BEH WITH THREE DOTS HORIZONTALLY BELOW
eDOT BELOW AND THREE DOTS ABOVEeTHREE DOTS POINTING UPWARDS BELOWjAND TWO DOTS ABOVE
eTWO DOTS BELOW AND DOT ABOVEeINVERTED SMALL V BELOWeSMALL VcHAH WITH TWO DOTS ABOVE
eTHREE DOTS POINTING UPWARDS BELOWcDAL WITH TWO DOTS VERTICALLY BELOW AND SMALL TAH
eINVERTED SMALL V BELOWcREH WITH STROKEcSEEN WITH FOUR DOTS ABOVEcAIN WITH TWO DOTS ABOVE
eTHREE DOTS POINTING DOWNWARDS ABOVEeTWO DOTS VERTICALLY ABOVEcFEH WITH TWO DOTS BELOW
eTHREE DOTS POINTING UPWARDS BELOWcKEHEH WITH DOT ABOVEeTHREE DOTS ABOVEgPOINTING UPWARDS BELOW
cMEEM WITH DOT ABOVEfBELOWcNOON WITH TWO DOTS BELOWeSMALL TAHfVcLAM WITH BAR
cREH WITH TWO DOTS VERTICALLY ABOVEeHAMZA ABOVEcSEEN WITH TWO DOTS VERTICALLY ABOVE
cHAH WITH SMALL ARABIC LETTER TAH BELOWiAND TWO DOTS
cSEEN WITH SMALL ARABIC LETTER TAH AND TWO DOTScREH WITH SMALL ARABIC LETTER TAH AND TWO DOTS
cHAH WITH SMALL ARABIC LETTER TAH ABOVEcALEF WITH EXTENDED ARABIC-INDIC DIGIT TWO ABOVE
hTHREE ABOVEcFARSI YEH WITH EXTENDED ARABIC-INDIC DIGIT TWO ABOVEiTHREE ABOVEiFOUR BELOW
cWAW WITH EXTENDED ARABIC-INDIC DIGIT TWO ABOVEhTHREE ABOVE
cYEH BARREE WITH EXTENDED ARABIC-INDIC DIGIT TWO ABOVEiTHREE ABOVE
cHAH WITH EXTENDED ARABIC-INDIC DIGIT FOUR BELOWcSEEN WITH EXTENDED ARABIC-INDIC DIGIT FOUR ABOVE
eINVERTED VcKAF WITH TWO DOTS ABOVEaTHAANA LETTER HAAcSHAVIYANIcNOONUcRAAcBAAcLHAVIYANIcKAAFU
cALIFUcVAAVUcMEEMUcFAAFUcDHAALUcTHAAcLAAMUcGAAFUcGNAVIYANIcSEENUcDAVIYANIcZAVIYANIcTAVIYANIcYAA
cPAVIYANIcJAVIYANIcCHAVIYANIcTTAAcHHAAcKHAAcTHAALUcZAAcSHEENUcSAADHUcDAADHUcTOcZOcAINUcGHAINU
cQAAFUcWAAVUbABAFILIbAABAAFILIbIBIFILIbEEBEEFILIbUBUFILIbOOBOOFILIbEBEFILIbEYBEYFILIbOBOFILI
bOABOAFILIbSUKUNbLETTER NAA@7C0aNKO DIGIT ZEROcONEcTWOcTHREEcFOURcFIVEcSIXcSEVENcEIGHTcNINE
bLETTER AcEEcIcEcUcOOcOcDAGBASINNAcNcBAcPAcTAcJAcCHAcDAcRAcRRAcSAcGBAcFAcKAcLAcNA WOLOSOcMAcNYAcNA
cHAcWAcYAcNYA WOLOSOcJONA JAdCHAdRAbCOMBINING SHORT HIGH TONEdLOW TONEdRISING TONE
cLONG DESCENDING TONEdHIGH TONEdLOW TONEdRISING TONEcNASALIZATION MARKcDOUBLE DOT ABOVE
bHIGH TONE APOSTROPHEbLOW TONE APOSTROPHEbSYMBOL OO DENNENcGBAKURUNENbCOMMAbEXCLAMATION MARK
bLAJANYALAN@7FDbDANTAYALANbDOROME SIGNbTAMAN SIGNaSAMARITAN LETTER ALAFcBITcGAMANcDALATcIYcBAAcZEN
cITcTITcYUTcKAAFcLABATcMIMcNUNcSINGAATcINcFIcTSAADIYcQUFcRISHcSHANcTAAFbMARK INcIN-ALAFcOCCLUSION
cDAGESHbMODIFIER LETTER EPENTHETIC YUTbMARK EPENTHETIC YUTbVOWEL SIGN LONG EdEdOVERLONG AAdLONG AA
dAAdOVERLONG AdLONG AdAbMODIFIER LETTER SHORT AbVOWEL SIGN SHORT AdLONG UdUbMODIFIER LETTER I
bVOWEL SIGN LONG IdIdOdSUKUNbMARK NEQUDAA@830bPUNCTUATION NEQUDAAcAFSAAQcANGEDcBAUcATMAAU
cSHIYYAALAAbABBREVIATION MARKbPUNCTUATION MELODIC QITSAcZIQAAcQITSAcZAEFcTURUcARKAANUcSOF MASHFAAT
cANNAAU@840aMANDAIC LETTER HALQAcABcAGcADcAHcUSHENNAcAZcITcATTcAKSAcAKcALcAMcANcAScINcAPcASZcAQcAR
cASHcATcDUSHENNAcKADcAINbAFFRICATION MARKbVOCALIZATION MARKbGEMINATION MARK@85EbPUNCTUATION
@860aSYRIAC LETTER MALAYALAM NGAdJAdNYAdTTAdNNAdNNNAdBHAdRAdLLAdLLLAdSSA
@870aARABIC LETTER ALEF WITH ATTACHED FATHAfTOP RIGHT FATHAeRIGHT MIDDLE STROKEeLEFT MIDDLE STROKE
eATTACHED KASRAfBOTTOM RIGHT KASRAfROUND DOT ABOVEfRIGHT ROUND DOTfLEFT ROUND DOTfROUND DOT BELOW
eDOT ABOVEeATTACHED TOP RIGHT FATHA AND DOT ABOVEeRIGHT MIDDLE STROKE AND DOT ABOVE
eATTACHED BOTTOM RIGHT KASRA AND DOT ABOVEfTOP RIGHT FATHA AND LEFT RING
eRIGHT MIDDLE STROKE AND LEFT RINGeATTACHED BOTTOM RIGHT KASRA AND LEFT RINGfRIGHT HAMZA
fLEFT HAMZAbTATWEEL WITH OVERSTRUCK HAMZAeWAWdTWO DOTS BELOWbLETTER THIN YEHbBASELINE ROUND DOT
bRAISED ROUND DOTbLETTER NOON WITH INVERTED SMALL VcHAH WITH INVERTED SMALL V BELOW
cTAH WITH DOT BELOWeTHREE DOTS BELOWcKEHEH WITH TWO DOTS VERTICALLY BELOWbVERTICAL TAIL
@890bPOUND MARK ABOVEbPIASTRE MARK ABOVE@898bSMALL HIGH WORD AL-JUZcLOW WORD ISHMAAMeIMAALA
eTASHEELbMADDA WAAJIBbSUPERSCRIPT ALEF MOKHASSASbDOUBLED MADDAbHALF MADDA OVER MADDA
bLETTER BEH WITH SMALL V BELOWeHAMZA ABOVEcJEEM WITH TWO DOTS ABOVEcTAH WITH TWO DOTS ABOVE
cFEH WITH DOT BELOW AND THREE DOTS ABOVEcQAF WITH DOT BELOWcLAM WITH DOUBLE BAR
cMEEM WITH THREE DOTS ABOVEcYEH WITH TWO DOTS BELOW AND HAMZA ABOVEiDOT ABOVEcREH WITH LOOP
cWAW WITH DOT WITHINcROHINGYA YEHcLOW ALEFcDAL WITH THREE DOTS BELOWcSAD WITH THREE DOTS BELOW
cGAF WITH INVERTED STROKEcSTRAIGHT WAWcZAIN WITH INVERTED V ABOVEcAIN WITH THREE DOTS BELOW
cKAF WITH DOT BELOWcQAF WITH DOT BELOW AND NO DOTS ABOVEcBEH WITH SMALL MEEM ABOVE
cPEH WITH SMALL MEEM ABOVEcTEH WITH SMALL TEH ABOVEcREH WITH SMALL NOON ABOVE
cYEH WITH TWO DOTS BELOW AND SMALL NOON ABOVEcAFRICAN FEHdQAFdNOONcPEH WITH SMALL V
cTEH WITH SMALL VcTTEH WITH SMALL VcTCHEH WITH SMALL VcKEHEH WITH SMALL V
cGHAIN WITH THREE DOTS ABOVEcAFRICAN QAF WITH THREE DOTS ABOVEcJEEM WITH THREE DOTS ABOVEgBELOW
cLAM WITH SMALL ARABIC LETTER TAH ABOVEcGRAFbSMALL FARSI YEHcHIGH FARSI YEH
dYEH BARREE WITH TWO DOTS BELOWdWORD SAHdZAHbLARGE ROUND DOT ABOVEeBELOWbSUKUN BELOW
bLARGE CIRCLE BELOWcROUND DOT INSIDE CIRCLE BELOWbSMALL LOW WAWcHIGH WORD AR-RUBdSADdAINdQAF
dNOON WITH KASRAcLOW NOON WITH KASRAcHIGH WORD ATH-THALATHAeAS-SAJDAeAN-NISFeSAKTAeQIFeWAQFA
dFOOTNOTE MARKERdSIGN SAFHAbDISPUTED END OF AYAHbTURNED DAMMA BELOWbCURLY FATHAcDAMMAcKASRA
cFATHATANcDAMMATANcKASRATANbTONE ONE DOT ABOVEcTWO DOTS ABOVEcLOOP ABOVEcONE DOT BELOW
cTWO DOTS BELOWcLOOP BELOWbOPEN FATHATANcDAMMATANcKASRATANbSMALL HIGH WAWbFATHA WITH RING
dDOT ABOVEbKASRA WITH DOT BELOWbLEFT ARROWHEAD ABOVEbRIGHT ARROWHEAD ABOVEbLEFT ARROWHEAD BELOW
bRIGHT ARROWHEAD BELOWbDOUBLE RIGHT ARROWHEAD ABOVEfWITH DOTbRIGHT ARROWHEAD ABOVE WITH DOT
bDAMMA WITH DOTbMARK SIDEWAYS NOON GHUNNAaDEVANAGARI SIGN INVERTED CANDRABINDUcCANDRABINDU
cANUSVARAcVISARGAbLETTER SHORT AcAcAAcIcIIcUcUUcVOCALIC RdLcCANDRA EcSHORT EcEcAIcCANDRA OcSHORT O
cOcAUcKAcKHAcGAcGHAcNGAcCAcCHAcJAcJHAcNYAcTTAcTTHAcDDAcDDHAcNNAcTAcTHAcDAcDHAcNAcNNNAcPAcPHAcBA
cBHAcMAcYAcRAcRRAcLAcLLAcLLLAcVAcSHAcSSAcSAcHAbVOWEL SIGN OEdOOEbSIGN NUKTAcAVAGRAHAbVOWEL SIGN AA
dIdIIdUdUUdVOCALIC ReRRdCANDRA EdSHORT EdEdAIdCANDRA OdSHORT OdOdAUbSIGN VIRAMA
bVOWEL SIGN PRISHTHAMATRA EdAWbOMbSTRESS SIGN UDATTAdANUDATTAbGRAVE ACCENTbACUTE ACCENT
bVOWEL SIGN CANDRA LONG EdUEdUUEbLETTER QAcKHHAcGHHAcZAcDDDHAcRHAcFAcYYAcVOCALIC RRdLL
bVOWEL SIGN VOCALIC LeLLbDANDAbDOUBLE DANDAbDIGIT ZEROcONEcTWOcTHREEcFOURcFIVEcSIXcSEVENcEIGHT
cNINEbABBREVIATION SIGNbSIGN HIGH SPACING DOTbLETTER CANDRA AcOEcOOEcAWcUEcUUEcMARWARI DDAcZHA
cHEAVY YAcGGAcJJAcGLOTTAL STOPcDDDAcBBAaBENGALI ANJIbSIGN CANDRABINDUcANUSVARAcVISARGA
@985bLETTER AcAAcIcIIcUcUUcVOCALIC RdL@98FcEcAI@993cOcAUcKAcKHAcGAcGHAcNGAcCAcCHAcJAcJHAcNYAcTTA
cTTHAcDDAcDDHAcNNAcTAcTHAcDAcDHAcNA@9AAcPAcPHAcBAcBHAcMAcYAcRA@9B2cLA@9B6cSHAcSSAcSAcHA
@9BCbSIGN NUKTAcAVAGRAHAbVOWEL SIGN AAdIdIIdUdUUdVOCALIC ReRR@9C7dEdAI@9CBdOdAUbSIGN VIRAMA
bLETTER KHANDA TA@9D7bAU LENGTH MARK@9DCbLETTER RRAcRHA@9DFcYYAcVOCALIC RRdLLbVOWEL SIGN VOCALIC L
eLL@9E6bDIGIT ZEROcONEcTWOcTHREEcFOURcFIVEcSIXcSEVENcEIGHTcNINEbLETTER RA WITH MIDDLE DIAGONAL
eLOWER DIAGONALbRUPEE MARKcSIGNbCURRENCY NUMERATOR ONEdTWOdTHREEdFOUR
dONE LESS THAN THE DENOMINATORcDENOMINATOR SIXTEENbISSHARbGANDA MARKbLETTER VEDIC ANUSVARA
bABBREVIATION SIGNbSANDHI MARK@A01aGURMUKHI SIGN ADAK BINDIcBINDIcVISARGA@A05bLETTER AcAAcIcIIcU
cUU@A0FcEEcAI@A13cOOcAUcKAcKHAcGAcGHAcNGAcCAcCHAcJAcJHAcNYAcTTAcTTHAcDDAcDDHAcNNAcTAcTHAcDAcDHAcNA
@A2AcPAcPHAcBAcBHAcMAcYAcRA@A32cLAcLLA@A35cVAcSHA@A38cSAcHA@A3CbSIGN NUKTA@A3EbVOWEL SIGN AAdIdII
dUdUU@A47dEEdAI@A4BdOOdAUbSIGN VIRAMA@A51cUDAAT@A59bLETTER KHHAcGHHAcZAcRRA@A5EcFA@A66bDIGIT ZERO
cONEcTWOcTHREEcFOURcFIVEcSIXcSEVENcEIGHTcNINEbTIPPIbADDAKbIRIbURAbEK ONKARbSIGN YAKASH
bABBREVIATION SIGN@A81aGUJARATI SIGN CANDRABINDUcANUSVARAcVISARGA@A85bLETTER AcAAcIcIIcUcUU
cVOCALIC RdLbVOWEL CANDRA E@A8FbLETTER EcAIbVOWEL CANDRA O@A93bLETTER OcAUcKAcKHAcGAcGHAcNGAcCA
cCHAcJAcJHAcNYAcTTAcTTHAcDDAcDDHAcNNAcTAcTHAcDAcDHAcNA@AAAcPAcPHAcBAcBHAcMAcYAcRA@AB2cLAcLLA
@AB5cVAcSHAcSSAcSAcHA@ABCbSIGN NUKTAcAVAGRAHAbVOWEL SIGN AAdIdIIdUdUUdVOCALIC ReRRdCANDRA E@AC7dE
dAIdCANDRA O@ACBdOdAUbSIGN VIRAMA@AD0bOM@AE0bLETTER VOCALIC RRdLLbVOWEL SIGN VOCALIC LeLL
@AE6bDIGIT ZEROcONEcTWOcTHREEcFOURcFIVEcSIXcSEVENcEIGHTcNINEbABBREVIATION SIGNbRUPEE SIGN
@AF9bLETTER ZHAbSIGN SUKUNcSHADDAcMADDAHcTHREE-DOT NUKTA ABOVEcCIRCLE NUKTA ABOVE
cTWO-CIRCLE NUKTA ABOVE@B01aORIYA SIGN CANDRABINDUcANUSVARAcVISARGA@B05bLETTER AcAAcIcIIcUcUU
cVOCALIC RdL@B0FcEcAI@B13cOcAUcKAcKHAcGAcGHAcNGAcCAcCHAcJAcJHAcNYAcTTAcTTHAcDDAcDDHAcNNAcTAcTHAcDA
cDHAcNA@B2AcPAcPHAcBAcBHAcMAcYAcRA@B32cLAcLLA@B35cVAcSHAcSSAcSAcHA@B3CbSIGN NUKTAcAVAGRAHA
bVOWEL SIGN AAdIdIIdUdUUdVOCALIC ReRR@B47dEdAI@B4BdOdAUbSIGN VIRAMA@B55cOVERLINEbAI LENGTH MARK
bAU LENGTH MARK@B5CbLETTER RRAcRHA@B5FcYYAcVOCALIC RRdLLbVOWEL SIGN VOCALIC LeLL@B66bDIGIT ZERO
cONEcTWOcTHREEcFOURcFIVEcSIXcSEVENcEIGHTcNINEbISSHARbLETTER WAbFRACTION ONE QUARTERdHALF
cTHREE QUARTERScONE SIXTEENTHdEIGHTHcTHREE SIXTEENTHS@B82aTAMIL SIGN ANUSVARAcVISARGA@B85bLETTER A
cAAcIcIIcUcUU@B8EcEcEEcAI@B92cOcOOcAUcKA@B99cNGAcCA@B9CcJA@B9EcNYAcTTA@BA3cNNAcTA@BA8cNAcNNNAcPA
@BAEcMAcYAcRAcRRAcLAcLLAcLLLAcVAcSHAcSSAcSAcHA@BBEbVOWEL SIGN AAdIdIIdUdUU@BC6dEdEEdAI@BCAdOdOOdAU
bSIGN VIRAMA@BD0bOM@BD7bAU LENGTH MARK@BE6bDIGIT ZEROcONEcTWOcTHREEcFOURcFIVEcSIXcSEVENcEIGHTcNINE
bNUMBER TENcONE HUNDREDdTHOUSANDbDAY SIGNbMONTH SIGNbYEAR SIGNbDEBIT SIGNbCREDIT SIGN
bAS ABOVE SIGNbRUPEE SIGNbNUMBER SIGN@C00aTELUGU SIGN COMBINING CANDRABINDU ABOVEcCANDRABINDU
cANUSVARAcVISARGAcCOMBINING ANUSVARA ABOVEbLETTER AcAAcIcIIcUcUUcVOCALIC RdL@C0EcEcEEcAI@C12cOcOO
cAUcKAcKHAcGAcGHAcNGAcCAcCHAcJAcJHAcNYAcTTAcTTHAcDDAcDDHAcNNAcTAcTHAcDAcDHAcNA@C2AcPAcPHAcBAcBHA
cMAcYAcRAcRRAcLAcLLAcLLLAcVAcSHAcSSAcSAcHA@C3CbSIGN NUKTAcAVAGRAHAbVOWEL SIGN AAdIdIIdUdUU
dVOCALIC ReRR@C46dEdEEdAI@C4AdOdOOdAUbSIGN VIRAMA@C55bLENGTH MARKbAI LENGTH MARK@C58bLETTER TSA
cDZAcRRRA@C5DcNAKAARA POLLU@C60cVOCALIC RRdLLbVOWEL SIGN VOCALIC LeLL@C66bDIGIT ZEROcONEcTWOcTHREE
cFOURcFIVEcSIXcSEVENcEIGHTcNINE@C77bSIGN SIDDHAMbFRACTION DIGIT ZERO FOR ODD POWERS OF FOUR
dONE FOR ODD POWERS OF FOURdTWO FOR ODD POWERS OF FOURdTHREE FOR ODD POWERS OF FOUR
dONE FOR EVEN POWERS OF FOURdTWO FOR EVEN POWERS OF FOURdTHREE FOR EVEN POWERS OF FOURbSIGN TUUMU
aKANNADA SIGN SPACING CANDRABINDUcCANDRABINDUcANUSVARAcVISARGAcSIDDHAMbLETTER AcAAcIcIIcUcUU
cVOCALIC RdL@C8EcEcEEcAI@C92cOcOOcAUcKAcKHAcGAcGHAcNGAcCAcCHAcJAcJHAcNYAcTTAcTTHAcDDAcDDHAcNNAcTA
cTHAcDAcDHAcNA@CAAcPAcPHAcBAcBHAcMAcYAcRAcRRAcLAcLLA@CB5cVAcSHAcSSAcSAcHA@CBCbSIGN NUKTAcAVAGRAHA
bVOWEL SIGN AAdIdIIdUdUUdVOCALIC ReRR@CC6dEdEEdAI@CCAdOdOOdAUbSIGN VIRAMA@CD5bLENGTH MARK
bAI LENGTH MARK@CDDbLETTER NAKAARA POLLUcFA@CE0cVOCALIC RRdLLbVOWEL SIGN VOCALIC LeLL
@CE6bDIGIT ZEROcONEcTWOcTHREEcFOURcFIVEcSIXcSEVENcEIGHTcNINE@CF1bSIGN JIHVAMULIYAcUPADHMANIYA
cCOMBINING ANUSVARA ABOVE RIGHT@D00aMALAYALAM SIGN COMBINING ANUSVARA ABOVEcCANDRABINDUcANUSVARA
cVISARGAbLETTER VEDIC ANUSVARAcAcAAcIcIIcUcUUcVOCALIC RdL@D0EcEcEEcAI@D12cOcOOcAUcKAcKHAcGAcGHA
cNGAcCAcCHAcJAcJHAcNYAcTTAcTTHAcDDAcDDHAcNNAcTAcTHAcDAcDHAcNAcNNNAcPAcPHAcBAcBHAcMAcYAcRAcRRAcLA
cLLAcLLLAcVAcSHAcSSAcSAcHAcTTTAbSIGN VERTICAL BAR VIRAMAcCIRCULAR VIRAMAcAVAGRAHAbVOWEL SIGN AAdI
dIIdUdUUdVOCALIC ReRR@D46dEdEEdAI@D4AdOdOOdAUbSIGN VIRAMAbLETTER DOT REPHbSIGN PARA
@D54bLETTER CHILLU MdYdLLLbAU LENGTH MARKbFRACTION ONE ONE-HUNDRED-AND-SIXTIETHdFORTIETH
cTHREE EIGHTIETHScONE TWENTIETHdTENTHcTHREE TWENTIETHScONE FIFTHbLETTER ARCHAIC IIcVOCALIC RRdLL
bVOWEL SIGN VOCALIC LeLL@D66bDIGIT ZEROcONEcTWOcTHREEcFOURcFIVEcSIXcSEVENcEIGHTcNINEbNUMBER TEN
cONE HUNDREDdTHOUSANDbFRACTION ONE QUARTERdHALFcTHREE QUARTERScONE SIXTEENTHdEIGHTH
cTHREE SIXTEENTHSbDATE MARKbLETTER CHILLU NNdNdRRdLdLLdK@D81aSINHALA SIGN CANDRABINDUcANUSVARAYA
cVISARGAYA@D85bLETTER AYANNAcAAYANNAcAEYANNAcAEEYANNAcIYANNAcIIYANNAcUYANNAcUUYANNAcIRUYANNA
cIRUUYANNAcILUYANNAcILUUYANNAcEYANNAcEEYANNAcAIYANNAcOYANNAcOOYANNAcAUYANNA@D9AcALPAPRAANA KAYANNA
cMAHAAPRAANA KAYANNAcALPAPRAANA GAYANNAcMAHAAPRAANA GAYANNAcKANTAJA NAASIKYAYAcSANYAKA GAYANNA
cALPAPRAANA CAYANNAcMAHAAPRAANA CAYANNAcALPAPRAANA JAYANNAcMAHAAPRAANA JAYANNAcTAALUJA NAASIKYAYA
dSANYOOGA NAAKSIKYAYAcSANYAKA JAYANNAcALPAPRAANA TTAYANNAcMAHAAPRAANA TTAYANNAcALPAPRAANA DDAYANNA
cMAHAAPRAANA DDAYANNAcMUURDHAJA NAYANNAcSANYAKA DDAYANNAcALPAPRAANA TAYANNAcMAHAAPRAANA TAYANNA
cALPAPRAANA DAYANNAcMAHAAPRAANA DAYANNAcDANTAJA NAYANNA@DB3cSANYAKA DAYANNAcALPAPRAANA PAYANNA
cMAHAAPRAANA PAYANNAcALPAPRAANA BAYANNAcMAHAAPRAANA BAYANNAcMAYANNAcAMBA BAYANNAcYAYANNAcRAYANNA
@DBDcDANTAJA LAYANNA@DC0cVAYANNAcTAALUJA SAYANNAcMUURDHAJA SAYANNAcDANTAJA SAYANNAcHAYANNA
cMUURDHAJA LAYANNAcFAYANNA@DCAbSIGN AL-LAKUNA@DCFbVOWEL SIGN AELA-PILLAdKETTI AEDA-PILLA
dDIGA AEDA-PILLAdKETTI IS-PILLAdDIGA IS-PILLAdKETTI PAA-PILLA@DD6dDIGA PAA-PILLA@DD8dGAETTA-PILLA
dKOMBUVAdDIGA KOMBUVAdKOMBU DEKAdKOMBUVA HAA AELA-PILLAfDIGA AELA-PILLAfGAYANUKITTAdGAYANUKITTA
@DE6bLITH DIGIT ZEROdONEdTWOdTHREEdFOURdFIVEdSIXdSEVENdEIGHTdNINE@DF2bVOWEL SIGN DIGA GAETTA-PILLA
eGAYANUKITTAbPUNCTUATION KUNDDALIYA@E01aTHAI CHARACTER KO KAIcKHO KHAIdKHUATdKHWAIdKHONdRAKHANG
cNGO NGUcCHO CHANdCHINGdCHANGcSO SOcCHO CHOEcYO YINGcDO CHADAcTO PATAKcTHO THANdNANGMONTHOdPHUTHAO
cNO NENcDO DEKcTO TAOcTHO THUNGdTHAHANdTHONGcNO NUcBO BAIMAIcPO PLAcPHO PHUNGcFO FAcPHO PHAN
cFO FANcPHO SAMPHAOcMO MAcYO YAKcRO RUAcRUcLO LINGcLUcWO WAENcSO SALAdRUSIdSUAcHO HIPcLO CHULA
cO ANGcHO NOKHUKcPAIYANNOIcSARA AcMAI HAN-AKATcSARA AAdAMdIdIIdUEdUEEdUdUUcPHINTHU
@E3FbCURRENCY SYMBOL BAHTbCHARACTER SARA EdAEdOdAI MAIMUANeMAIMALAIcLAKKHANGYAOcMAIYAMOKcMAITAIKHU
cMAI EKdTHOdTRIdCHATTAWAcTHANTHAKHATcNIKHAHITcYAMAKKANcFONGMANbDIGIT ZEROcONEcTWOcTHREEcFOURcFIVE
cSIXcSEVENcEIGHTcNINEbCHARACTER ANGKHANKHUcKHOMUT@E81aLAO LETTER KOcKHO SUNG@E84dTAM@E86cPALI GHA
cNGOcCOcPALI CHAcSO TAM@E8CcPALI JHAcNYOcPALI NYAdTTAdTTHAdDDAdDDHAdNNAcDOcTOcTHO SUNGdTAM
cPALI DHAcNOcBOcPOcPHO SUNGcFO TAMcPHO TAMcFO SUNGcPALI BHAcMOcYOcLO LING@EA5dLOOT@EA7cWO
cSANSKRIT SHAdSSAcSO SUNGcHO SUNGcPALI LLAcOcHO TAMbELLIPSISbVOWEL SIGN AdMAI KANdAAdAMdIdIIdYdYY
dUdUUbSIGN PALI VIRAMAbVOWEL SIGN MAI KONbSEMIVOWEL SIGN LOdNYO@EC0bVOWEL SIGN EdEIdOdAYdAI
@EC6bKO LA@EC8bTONE MAI EKdTHOdTIdCATAWAbCANCELLATION MARKbNIGGAHITAbYAMAKKAN@ED0bDIGIT ZEROcONE
cTWOcTHREEcFOURcFIVEcSIXcSEVENcEIGHTcNINE@EDCbHO NOcMObLETTER KHMU GOdNYO@F00aTIBETAN SYLLABLE OM
bMARK GTER YIG MGO TRUNCATED Af-UM RNAM BCAD MAgGTER TSHEG MAcINITIAL YIG MGO MDUN MA
cCLOSING YIG MGO SGAB MAcCARET YIG MGO PHUR SHAD MAcYIG MGO TSHEG SHAD MAcSBRUL SHADcBSKUR YIG MGO
cBKA- SHOG YIG MGOcINTERSYLLABIC TSHEGcDELIMITER TSHEG BSTARcSHADcNYIS SHADcTSHEG SHAD
cNYIS TSHEG SHADcRIN CHEN SPUNGS SHADcRGYA GRAM SHADcCARET -DZUD RTAGS ME LONG CANcGTER TSHEG
bLOGOTYPE SIGN CHAD RTAGSdLHAG RTAGSbASTROLOGICAL SIGN SGRA GCAN -CHAR RTAGSd-KHYUD PA
dSDONG TSHUGSbSIGN RDEL DKAR GCIGeGNYISeGSUMdNAG GCIGeGNYISdDKAR RDEL NAGbDIGIT ZEROcONEcTWOcTHREE
cFOURcFIVEcSIXcSEVENcEIGHTcNINEcHALF ONEdTWOdTHREEdFOURdFIVEdSIXdSEVENdEIGHTdNINEdZERO
bMARK BSDUS RTAGScNGAS BZUNG NYI ZLAcCARET -DZUD RTAGS BZHI MIG CANcNGAS BZUNG SGOR RTAGScCHE MGO
cTSA -PHRUcGUG RTAGS GYONeGYAScANG KHANG GYONeGYASbSIGN YAR TSHEScMAR TSHESbLETTER KAcKHAcGAcGHA
cNGAcCAcCHAcJA@F49cNYAcTTAcTTHAcDDAcDDHAcNNAcTAcTHAcDAcDHAcNAcPAcPHAcBAcBHAcMAcTSAcTSHAcDZAcDZHA
cWAcZHAcZAc-AcYAcRAcLAcSHAcSSAcSAcHAcAcKSSAcFIXED-FORM RAcKKAcRRA@F71bVOWEL SIGN AAdIdIIdUdUU
dVOCALIC ReRReLeLLdEdEEdOdOObSIGN RJES SU NGA ROcRNAM BCADbVOWEL SIGN REVERSED IeII
bSIGN NYI ZLA NAA DAcSNA LDANbMARK HALANTAcPALUTAbSIGN LCI RTAGScYANG RTAGScLCE TSA CANcMCHU CAN
cGRU CAN RGYINGSdMED RGYINGScINVERTED MCHU CANbSUBJOINED SIGN LCE TSA CANdMCHU CAN
dINVERTED MCHU CANcLETTER KAdKHAdGAdGHAdNGAdCAdCHAdJA@F99dNYAdTTAdTTHAdDDAdDDHAdNNAdTAdTHAdDAdDHA
dNAdPAdPHAdBAdBHAdMAdTSAdTSHAdDZAdDZHAdWAdZHAdZAd-AdYAdRAdLAdSHAdSSAdSAdHAdAdKSSAdFIXED-FORM WAeYA
eRA@FBEbKU RU KHAeBZHI MIG CANbCANTILLATION SIGN HEAVY BEATdLIGHT BEATdCANG TE-UdSBUB -CHAL
bSYMBOL DRIL BUcRDO RJEcPADMA GDANcRDO RJE RGYA GRAMcPHUR PAcNOR BUeNYIS -KHYILeGSUM -KHYIL
eBZHI -KHYIL@FCEbSIGN RDEL NAG RDEL DKAReGSUMbMARK BSKA- SHOG GI MGO RGYANcMNYAM YIG GI MGO RGYAN
cNYIS TSHEGcINITIAL BRDA RNYING YIG MGO MDUN MAcCLOSING BRDA RNYING YIG MGO SGAB MA
aRIGHT-FACING SVASTI SIGNaLEFT-FACING SVASTI SIGNaRIGHT-FACING SVASTI SIGN WITH DOTS
aLEFT-FACING SVASTI SIGN WITH DOTSaTIBETAN MARK LEADING MCHAN RTAGScTRAILING MCHAN RTAGS
@1000aMYANMAR LETTER KAcKHAcGAcGHAcNGAcCAcCHAcJAcJHAcNYAcNNYAcTTAcTTHAcDDAcDDHAcNNAcTAcTHAcDAcDHA
cNAcPAcPHAcBAcBHAcMAcYAcRAcLAcWAcSAcHAcLLAcAcSHAN AcIcIIcUcUUcEcMON EcOcAUbVOWEL SIGN TALL AAdAAdI
dIIdUdUUdEdAIdMON IIeOdE ABOVEbSIGN ANUSVARAcDOT BELOWcVISARGAcVIRAMAcASAT
bCONSONANT SIGN MEDIAL YAeRAeWAeHAbLETTER GREAT SAbDIGIT ZEROcONEcTWOcTHREEcFOURcFIVEcSIXcSEVEN
cEIGHTcNINEbSIGN LITTLE SECTIONcSECTIONbSYMBOL LOCATIVEcCOMPLETEDcAFOREMENTIONEDcGENITIVE
bLETTER SHAcSSAcVOCALIC RdRRdLdLLbVOWEL SIGN VOCALIC ReRReLeLLbLETTER MON NGAdJHAdBBAdBBE
bCONSONANT SIGN MON MEDIAL NAfMAfLAbLETTER SGAW KAREN SHAbVOWEL SIGN SGAW KAREN EU
bTONE MARK SGAW KAREN HATHIfKE PHObLETTER WESTERN PWO KAREN THAfPWA
bVOWEL SIGN WESTERN PWO KAREN EUgUEbSIGN WESTERN PWO KAREN TONE-1fTONE-2fTONE-3fTONE-4fTONE-5
bLETTER EASTERN PWO KAREN NNAfYWAfGHWAbVOWEL SIGN GEBA KAREN IdKAYAH OEeUeEEbLETTER SHAN KAdKHAdGA
dCAdZAdNYAdDAdNAdPHAdFAdBAdTHAdHAbCONSONANT SIGN SHAN MEDIAL WAbVOWEL SIGN SHAN AAeEfABOVEeFINAL Y
bSIGN SHAN TONE-2dTONE-3dTONE-5dTONE-6dCOUNCIL TONE-2eTONE-3eEMPHATIC TONEbLETTER RUMAI PALAUNG FA
bSIGN RUMAI PALAUNG TONE-5bSHAN DIGIT ZEROdONEdTWOdTHREEdFOURdFIVEdSIXdSEVENdEIGHTdNINE
bSIGN KHAMTI TONE-1dTONE-3bVOWEL SIGN AITON AeAIbSYMBOL SHAN ONEdEXCLAMATION
aGEORGIAN CAPITAL LETTER ANdBANdGANdDONdENdVINdZENdTANdINdKANdLASdMANdNARdONdPARdZHARdRAEdSANdTAR
dUNdPHARdKHARdGHANdQARdSHINdCHINdCANdJILdCILdCHARdXANdJHANdHAEdHEdHIEdWEdHARdHOE@10C7dYN@10CDdAEN
@10D0bLETTER ANcBANcGANcDONcENcVINcZENcTANcINcKANcLAScMANcNARcONcPARcZHARcRAEcSANcTARcUNcPHARcKHAR
cGHANcQARcSHINcCHINcCANcJILcCILcCHARcXANcJHANcHAEcHEcHIEcWEcHARcHOEcFIcYNcELIFIcTURNED GANcAIN
bPARAGRAPH SEPARATORaMODIFIER LETTER GEORGIAN NARaGEORGIAN LETTER AENcHARD SIGNcLABIAL SIGN
aHANGUL CHOSEONG KIYEOKcSSANGKIYEOKcNIEUNcTIKEUTcSSANGTIKEUTcRIEULcMIEUMcPIEUPcSSANGPIEUPcSIOS
cSSANGSIOScIEUNGcCIEUCcSSANGCIEUCcCHIEUCHcKHIEUKHcTHIEUTHcPHIEUPHcHIEUHcNIEUN-KIYEOKcSSANGNIEUN
cNIEUN-TIKEUTcNIEUN-PIEUPcTIKEUT-KIYEOKcRIEUL-NIEUNcSSANGRIEULcRIEUL-HIEUHcKAPYEOUNRIEUL
cMIEUM-PIEUPcKAPYEOUNMIEUMcPIEUP-KIYEOKcPIEUP-NIEUNcPIEUP-TIKEUTcPIEUP-SIOScPIEUP-SIOS-KIYEOK
cPIEUP-SIOS-TIKEUTcPIEUP-SIOS-PIEUPcPIEUP-SSANGSIOScPIEUP-SIOS-CIEUCcPIEUP-CIEUCcPIEUP-CHIEUCH
cPIEUP-THIEUTHcPIEUP-PHIEUPHcKAPYEOUNPIEUPcKAPYEOUNSSANGPIEUPcSIOS-KIYEOKcSIOS-NIEUNcSIOS-TIKEUT
cSIOS-RIEULcSIOS-MIEUMcSIOS-PIEUPcSIOS-PIEUP-KIYEOKcSIOS-SSANGSIOScSIOS-IEUNGcSIOS-CIEUC
cSIOS-CHIEUCHcSIOS-KHIEUKHcSIOS-THIEUTHcSIOS-PHIEUPHcSIOS-HIEUHcCHITUEUMSIOScCHITUEUMSSANGSIOS
cCEONGCHIEUMSIOScCEONGCHIEUMSSANGSIOScPANSIOScIEUNG-KIYEOKcIEUNG-TIKEUTcIEUNG-MIEUMcIEUNG-PIEUP
cIEUNG-SIOScIEUNG-PANSIOScSSANGIEUNGcIEUNG-CIEUCcIEUNG-CHIEUCHcIEUNG-THIEUTHcIEUNG-PHIEUPH
cYESIEUNGcCIEUC-IEUNGcCHITUEUMCIEUCcCHITUEUMSSANGCIEUCcCEONGCHIEUMCIEUCcCEONGCHIEUMSSANGCIEUC
cCHIEUCH-KHIEUKHcCHIEUCH-HIEUHcCHITUEUMCHIEUCHcCEONGCHIEUMCHIEUCHcPHIEUPH-PIEUPcKAPYEOUNPHIEUPH
cSSANGHIEUHcYEORINHIEUHcKIYEOK-TIKEUTcNIEUN-SIOScNIEUN-CIEUCcNIEUN-HIEUHcTIKEUT-RIEULcFILLER
bJUNGSEONG FILLERcAcAEcYAcYAEcEOcEcYEOcYEcOcWAcWAEcOEcYOcUcWEOcWEcWIcYUcEUcYIcIcA-OcA-UcYA-OcYA-YO
cEO-OcEO-UcEO-EUcYEO-OcYEO-UcO-EOcO-EcO-YEcO-OcO-UcYO-YAcYO-YAEcYO-YEOcYO-OcYO-IcU-AcU-AEcU-EO-EU
cU-YEcU-UcYU-AcYU-EOcYU-EcYU-YEOcYU-YEcYU-UcYU-IcEU-UcEU-EUcYI-UcI-AcI-YAcI-OcI-UcI-EUcI-ARAEA
cARAEAcARAEA-EOcARAEA-UcARAEA-IcSSANGARAEAcA-EUcYA-UcYEO-YAcO-YAcO-YAEbJONGSEONG KIYEOK
cSSANGKIYEOKcKIYEOK-SIOScNIEUNcNIEUN-CIEUCcNIEUN-HIEUHcTIKEUTcRIEULcRIEUL-KIYEOKcRIEUL-MIEUM
cRIEUL-PIEUPcRIEUL-SIOScRIEUL-THIEUTHcRIEUL-PHIEUPHcRIEUL-HIEUHcMIEUMcPIEUPcPIEUP-SIOScSIOS
cSSANGSIOScIEUNGcCIEUCcCHIEUCHcKHIEUKHcTHIEUTHcPHIEUPHcHIEUHcKIYEOK-RIEULcKIYEOK-SIOS-KIYEOK
cNIEUN-KIYEOKcNIEUN-TIKEUTcNIEUN-SIOScNIEUN-PANSIOScNIEUN-THIEUTHcTIKEUT-KIYEOKcTIKEUT-RIEUL
cRIEUL-KIYEOK-SIOScRIEUL-NIEUNcRIEUL-TIKEUTcRIEUL-TIKEUT-HIEUHcSSANGRIEULcRIEUL-MIEUM-KIYEOK
cRIEUL-MIEUM-SIOScRIEUL-PIEUP-SIOScRIEUL-PIEUP-HIEUHcRIEUL-KAPYEOUNPIEUPcRIEUL-SSANGSIOS
cRIEUL-PANSIOScRIEUL-KHIEUKHcRIEUL-YEORINHIEUHcMIEUM-KIYEOKcMIEUM-RIEULcMIEUM-PIEUPcMIEUM-SIOS
cMIEUM-SSANGSIOScMIEUM-PANSIOScMIEUM-CHIEUCHcMIEUM-HIEUHcKAPYEOUNMIEUMcPIEUP-RIEULcPIEUP-PHIEUPH
cPIEUP-HIEUHcKAPYEOUNPIEUPcSIOS-KIYEOKcSIOS-TIKEUTcSIOS-RIEULcSIOS-PIEUPcPANSIOScIEUNG-KIYEOK
cIEUNG-SSANGKIYEOKcSSANGIEUNGcIEUNG-KHIEUKHcYESIEUNGcYESIEUNG-SIOScYESIEUNG-PANSIOScPHIEUPH-PIEUP
cKAPYEOUNPHIEUPHcHIEUH-NIEUNcHIEUH-RIEULcHIEUH-MIEUMcHIEUH-PIEUPcYEORINHIEUHcKIYEOK-NIEUN
cKIYEOK-PIEUPcKIYEOK-CHIEUCHcKIYEOK-KHIEUKHcKIYEOK-HIEUHcSSANGNIEUNaETHIOPIC SYLLABLE HAcHUcHIcHAA
cHEEcHEcHOcHOAcLAcLUcLIcLAAcLEEcLEcLOcLWAcHHAcHHUcHHIcHHAAcHHEEcHHEcHHOcHHWAcMAcMUcMIcMAAcMEEcME
cMOcMWAcSZAcSZUcSZIcSZAAcSZEEcSZEcSZOcSZWAcRAcRUcRIcRAAcREEcREcROcRWAcSAcSUcSIcSAAcSEEcSEcSOcSWA
cSHAcSHUcSHIcSHAAcSHEEcSHEcSHOcSHWAcQAcQUcQIcQAAcQEEcQEcQOcQOAcQWA@124AcQWIcQWAAcQWEEcQWE@1250cQHA
cQHUcQHIcQHAAcQHEEcQHEcQHO@1258cQHWA@125AcQHWIcQHWAAcQHWEEcQHWE@1260cBAcBUcBIcBAAcBEEcBEcBOcBWAcVA
cVUcVIcVAAcVEEcVEcVOcVWAcTAcTUcTIcTAAcTEEcTEcTOcTWAcCAcCUcCIcCAAcCEEcCEcCOcCWAcXAcXUcXIcXAAcXEEcXE
cXOcXOAcXWA@128AcXWIcXWAAcXWEEcXWE@1290cNAcNUcNIcNAAcNEEcNEcNOcNWAcNYAcNYUcNYIcNYAAcNYEEcNYEcNYO
cNYWAcGLOTTAL AdUdIdAAdEEdEdOdWAcKAcKUcKIcKAAcKEEcKEcKOcKOAcKWA@12B2cKWIcKWAAcKWEEcKWE@12B8cKXA
cKXUcKXIcKXAAcKXEEcKXEcKXO@12C0cKXWA@12C2cKXWIcKXWAAcKXWEEcKXWE@12C8cWAcWUcWIcWAAcWEEcWEcWOcWOA
cPHARYNGEAL AdUdIdAAdEEdEdO@12D8cZAcZUcZIcZAAcZEEcZEcZOcZWAcZHAcZHUcZHIcZHAAcZHEEcZHEcZHOcZHWAcYA
cYUcYIcYAAcYEEcYEcYOcYOAcDAcDUcDIcDAAcDEEcDEcDOcDWAcDDAcDDUcDDIcDDAAcDDEEcDDEcDDOcDDWAcJAcJUcJI
cJAAcJEEcJEcJOcJWAcGAcGUcGIcGAAcGEEcGEcGOcGOAcGWA@1312cGWIcGWAAcGWEEcGWE@1318cGGAcGGUcGGIcGGAA
cGGEEcGGEcGGOcGGWAAcTHAcTHUcTHIcTHAAcTHEEcTHEcTHOcTHWAcCHAcCHUcCHIcCHAAcCHEEcCHEcCHOcCHWAcPHAcPHU
cPHIcPHAAcPHEEcPHEcPHOcPHWAcTSAcTSUcTSIcTSAAcTSEEcTSEcTSOcTSWAcTZAcTZUcTZIcTZAAcTZEEcTZEcTZOcTZOA
cFAcFUcFIcFAAcFEEcFEcFOcFWAcPAcPUcPIcPAAcPEEcPEcPOcPWAcRYAcMYAcFYA
@135DbCOMBINING GEMINATION AND VOWEL LENGTH MARKcVOWEL LENGTH MARKcGEMINATION MARKbSECTION MARK
bWORDSPACEbFULL STOPbCOMMAbSEMICOLONbCOLONbPREFACE COLONbQUESTION MARKbPARAGRAPH SEPARATOR
bDIGIT ONEcTWOcTHREEcFOURcFIVEcSIXcSEVENcEIGHTcNINEbNUMBER TENcTWENTYcTHIRTYcFORTYcFIFTYcSIXTY
cSEVENTYcEIGHTYcNINETYcHUNDREDcTEN THOUSAND@1380bSYLLABLE SEBATBEIT MWAcMWIcMWEEcMWEcSEBATBEIT BWA
cBWIcBWEEcBWEcSEBATBEIT FWAcFWIcFWEEcFWEcSEBATBEIT PWAcPWIcPWEEcPWEbTONAL MARK YIZETdDERETdRIKRIK
dSHORT RIKRIKdDIFATdKENATdCHIRETdHIDETdDERET-HIDETdKURT@13A0aCHEROKEE LETTER AcEcIcOcUcVcGAcKAcGE
cGIcGOcGUcGVcHAcHEcHIcHOcHUcHVcLAcLEcLIcLOcLUcLVcMAcMEcMIcMOcMUcNAcHNAcNAHcNEcNIcNOcNUcNVcQUAcQUE
cQUIcQUOcQUUcQUVcSAcScSEcSIcSOcSUcSVcDAcTAcDEcTEcDIcTIcDOcDUcDVcDLAcTLAcTLEcTLIcTLOcTLUcTLVcTSA
cTSEcTSIcTSOcTSUcTSVcWAcWEcWIcWOcWUcWVcYAcYEcYIcYOcYUcYVcMV@13F8bSMALL LETTER YEdYIdYOdYUdYVdMV
@1400aCANADIAN SYLLABICS HYPHENcEcAAIcIcIIcOcOOcY-CREE OOcCARRIER EEdIcAcAAcWEcWEST-CREE WEcWI
cWEST-CREE WIcWIIcWEST-CREE WIIcWOcWEST-CREE WOcWOOcWEST-CREE WOOcNASKAPI WOOcWAcWEST-CREE WAcWAA
cWEST-CREE WAAcNASKAPI WAAcAIcY-CREE WcGLOTTAL STOPcFINAL ACUTEdGRAVEdBOTTOM HALF RING
dTOP HALF RINGdRIGHT HALF RINGdRINGdDOUBLE ACUTEeSHORT VERTICAL STROKESdMIDDLE DOT
dSHORT HORIZONTAL STROKEdPLUSdDOWN TACKcENcINcONcANcPEcPAAIcPIcPIIcPOcPOOcY-CREE POOcCARRIER HEE
dHIcPAcPAAcPWEcWEST-CREE PWEcPWIcWEST-CREE PWIcPWIIcWEST-CREE PWIIcPWOcWEST-CREE PWOcPWOO
cWEST-CREE PWOOcPWAcWEST-CREE PWAcPWAAcWEST-CREE PWAAcY-CREE PWAAcPcWEST-CREE PcCARRIER HcTEcTAAI
cTIcTIIcTOcTOOcY-CREE TOOcCARRIER DEEdDIcTAcTAAcTWEcWEST-CREE TWEcTWIcWEST-CREE TWIcTWII
cWEST-CREE TWIIcTWOcWEST-CREE TWOcTWOOcWEST-CREE TWOOcTWAcWEST-CREE TWAcTWAAcWEST-CREE TWAA
cNASKAPI TWAAcTcTTEcTTIcTTOcTTAcKEcKAAIcKIcKIIcKOcKOOcY-CREE KOOcKAcKAAcKWEcWEST-CREE KWEcKWI
cWEST-CREE KWIcKWIIcWEST-CREE KWIIcKWOcWEST-CREE KWOcKWOOcWEST-CREE KWOOcKWAcWEST-CREE KWAcKWAA
cWEST-CREE KWAAcNASKAPI KWAAcKcKWcSOUTH-SLAVEY KEHdKIHdKOHdKAHcCEcCAAIcCIcCIIcCOcCOOcY-CREE COOcCA
cCAAcCWEcWEST-CREE CWEcCWIcWEST-CREE CWIcCWIIcWEST-CREE CWIIcCWOcWEST-CREE CWOcCWOOcWEST-CREE CWOO
cCWAcWEST-CREE CWAcCWAAcWEST-CREE CWAAcNASKAPI CWAAcCcSAYISI THcMEcMAAIcMIcMIIcMOcMOOcY-CREE MOO
cMAcMAAcMWEcWEST-CREE MWEcMWIcWEST-CREE MWIcMWIIcWEST-CREE MWIIcMWOcWEST-CREE MWOcMWOO
cWEST-CREE MWOOcMWAcWEST-CREE MWAcMWAAcWEST-CREE MWAAcNASKAPI MWAAcMcWEST-CREE McMHcATHAPASCAN M
cSAYISI McNEcNAAIcNIcNIIcNOcNOOcY-CREE NOOcNAcNAAcNWEcWEST-CREE NWEcNWAcWEST-CREE NWAcNWAA
cWEST-CREE NWAAcNASKAPI NWAAcNcCARRIER NGcNHcLEcLAAIcLIcLIIcLOcLOOcY-CREE LOOcLAcLAAcLWE
cWEST-CREE LWEcLWIcWEST-CREE LWIcLWIIcWEST-CREE LWIIcLWOcWEST-CREE LWOcLWOOcWEST-CREE LWOOcLWA
cWEST-CREE LWAcLWAAcWEST-CREE LWAAcLcWEST-CREE LcMEDIAL LcSEcSAAIcSIcSIIcSOcSOOcY-CREE SOOcSAcSAA
cSWEcWEST-CREE SWEcSWIcWEST-CREE SWIcSWIIcWEST-CREE SWIIcSWOcWEST-CREE SWOcSWOOcWEST-CREE SWOOcSWA
cWEST-CREE SWAcSWAAcWEST-CREE SWAAcNASKAPI SWAAcScATHAPASCAN ScSWcBLACKFOOT ScMOOSE-CREE SK
cNASKAPI SKWdS-WdSPWAdSTWAdSKWAdSCWAcSHEcSHIcSHIIcSHOcSHOOcSHAcSHAAcSHWEcWEST-CREE SHWEcSHWI
cWEST-CREE SHWIcSHWIIcWEST-CREE SHWIIcSHWOcWEST-CREE SHWOcSHWOOcWEST-CREE SHWOOcSHWA
cWEST-CREE SHWAcSHWAAcWEST-CREE SHWAAcSHcYEcYAAIcYIcYIIcYOcYOOcY-CREE YOOcYAcYAAcYWEcWEST-CREE YWE
cYWIcWEST-CREE YWIcYWIIcWEST-CREE YWIIcYWOcWEST-CREE YWOcYWOOcWEST-CREE YWOOcYWAcWEST-CREE YWA
cYWAAcWEST-CREE YWAAcNASKAPI YWAAcYcBIBLE-CREE YcWEST-CREE YcSAYISI YIcREcR-CREE REcWEST-CREE LE
cRAAIcRIcRIIcROcROOcWEST-CREE LOcRAcRAAcWEST-CREE LAcRWAAcWEST-CREE RWAAcRcWEST-CREE RcMEDIAL RcFE
cFAAIcFIcFIIcFOcFOOcFAcFAAcFWAAcWEST-CREE FWAAcFcTHEcN-CREE THEcTHIcN-CREE THIcTHIIcN-CREE THII
cTHOcTHOOcTHAcTHAAcTHWAAcWEST-CREE THWAAcTHcTTHEcTTHIcTTHOcTTHAcTTHcTYEcTYIcTYOcTYAcNUNAVIK HEdHI
dHIIdHOdHOOdHAdHAAdHcNUNAVUT HcHKcQAAIcQIcQIIcQOcQOOcQAcQAAcQcTLHEcTLHIcTLHOcTLHAcWEST-CREE REdRI
dROdRAcNGAAIcNGIcNGIIcNGOcNGOOcNGAcNGAAcNGcNNGcSAYISI SHEdSHIdSHOdSHAcWOODS-CREE THEdTHIdTHOdTHA
dTHcLHIcLHIIcLHOcLHOOcLHAcLHAAcLHcTH-CREE THEdTHIdTHIIdTHOdTHOOdTHAdTHAAdTHcAIVILIK BcBLACKFOOT E
dIdOdAdWEdWIdWOdWAdNEdNIdNOdNAdKEdKIdKOdKAcSAYISI HEdHIdHOdHAcCARRIER GHUdGHOdGHEdGHEEdGHIdGHAdRU
dROdREdREEdRIdRAdWUdWOdWEdWEEdWIdWAdHWUdHWOdHWEdHWEEdHWIdHWAdTHUdTHOdTHEdTHEEdTHIdTHAdTTUdTTOdTTE
dTTEEdTTIdTTAdPUdPOdPEdPEEdPIdPAdPdGUdGOdGEdGEEdGIdGAdKHUdKHOdKHEdKHEEdKHIdKHAdKKUdKKOdKKEdKKEE
dKKIdKKAdKKdNUdNOdNEdNEEdNIdNAdMUdMOdMEdMEEdMIdMAdYUdYOdYEdYEEdYIdYAdJUcSAYISI JUcCARRIER JOdJE
dJEEdJIcSAYISI JIcCARRIER JAdJJUdJJOdJJEdJJEEdJJIdJJAdLUdLOdLEdLEEdLIdLAdDLUdDLOdDLEdDLEEdDLIdDLA
dLHUdLHOdLHEdLHEEdLHIdLHAdTLHUdTLHOdTLHEdTLHEEdTLHIdTLHAdTLUdTLOdTLEdTLEEdTLIdTLAdZUdZOdZEdZEEdZI
dZAdZdINITIAL ZdDZUdDZOdDZEdDZEEdDZIdDZAdSUdSOdSEdSEEdSIdSAdSHUdSHOdSHEdSHEEdSHIdSHAdSHdTSUdTSO
dTSEdTSEEdTSIdTSAdCHUdCHOdCHEdCHEEdCHIdCHAdTTSUdTTSOdTTSEdTTSEEdTTSIdTTSAcCHI SIGNcFULL STOPcQAI
cNGAIcNNGIcNNGIIcNNGOcNNGOOcNNGAcNNGAAcWOODS-CREE THWEEdTHWIdTHWIIdTHWOdTHWOOdTHWAdTHWAAdFINAL TH
cBLACKFOOT WaOGHAM SPACE MARKbLETTER BEITHcLUIScFEARNcSAILcNIONcUATHcDAIRcTINNEcCOLLcCEIRTcMUIN
cGORTcNGEADALcSTRAIFcRUIScAILMcONNcURcEADHADHcIODHADHcEABHADHcORcUILLEANNcIFINcEAMHANCHOLLcPEITH
bFEATHER MARKbREVERSED FEATHER MARK@16A0aRUNIC LETTER FEHU FEOH FE FcVcURUZ UR UcYRcYcW
cTHURISAZ THURS THORNcETHcANSUZ AcOS OcAC AcAESCcLONG-BRANCH-OSS OcSHORT-TWIG-OSS OcOcOEcON
cRAIDO RAD REID RcKAUNAcCENcKAUN KcGcENGcGEBO GYFU GcGARcWUNJO WYNN WcHAGLAZ HcHAEGL H
cLONG-BRANCH-HAGALL HcSHORT-TWIG-HAGALL HcNAUDIZ NYD NAUD NcSHORT-TWIG-NAUD NcDOTTED-N
cISAZ IS ISS IcEcJERAN JcGERcLONG-BRANCH-AR AEcSHORT-TWIG-AR AcIWAZ EOHcPERTHO PEORTH P
cALGIZ EOLHXcSOWILO ScSIGEL LONG-BRANCH-SOL ScSHORT-TWIG-SOL ScCcZcTIWAZ TIR TYR T
cSHORT-TWIG-TYR TcDcBERKANAN BEORC BJARKAN BcSHORT-TWIG-BJARKAN BcDOTTED-PcOPEN-PcEHWAZ EH E
cMANNAZ MAN McLONG-BRANCH-MADR McSHORT-TWIG-MADR McLAUKAZ LAGU LOGR LcDOTTED-LcINGWAZcING
cDAGAZ DAEG DcOTHALAN ETHEL OcEARcIORcCWEORTHcCALCcCEALCcSTANcLONG-BRANCH-YRcSHORT-TWIG-YR
cICELANDIC-YRcQcXbSINGLE PUNCTUATIONbMULTIPLE PUNCTUATIONbCROSS PUNCTUATIONbARLAUG SYMBOL
bTVIMADUR SYMBOLbBELGTHOR SYMBOLbLETTER KcSHcOOcFRANKS CASKET OSeISeEHeACeAESC
@1700aTAGALOG LETTER AcIcUcKAcGAcNGAcTAcDAcNAcPAcBAcMAcYAcRAcLAcWAcSAcHAbVOWEL SIGN IdU
bSIGN VIRAMAcPAMUDPOD@171FbLETTER ARCHAIC RAaHANUNOO LETTER AcIcUcKAcGAcNGAcTAcDAcNAcPAcBAcMAcYA
cRAcLAcWAcSAcHAbVOWEL SIGN IdUbSIGN PAMUDPODaPHILIPPINE SINGLE PUNCTUATIONbDOUBLE PUNCTUATION
@1740aBUHID LETTER AcIcUcKAcGAcNGAcTAcDAcNAcPAcBAcMAcYAcRAcLAcWAcSAcHAbVOWEL SIGN IdU
@1760aTAGBANWA LETTER AcIcUcKAcGAcNGAcTAcDAcNAcPAcBAcMAcYA@176EcLAcWAcSA@1772bVOWEL SIGN IdU
@1780aKHMER LETTER KAcKHAcKOcKHOcNGOcCAcCHAcCOcCHOcNYOcDAcTTHAcDOcTTHOcNNOcTAcTHAcTOcTHOcNOcBAcPHA
cPOcPHOcMOcYOcROcLOcVOcSHAcSSOcSAcHAcLAcQAbINDEPENDENT VOWEL QAQdQAAdQIdQIIdQUdQUKdQUUdQUUVdRYdRYY
dLYdLYYdQEdQAIdQOO TYPE ONEfTWOdQAUbVOWEL INHERENT AQdAAcSIGN AAdIdIIdYdYYdUdUUdUAdOEdYAdIEdEdAE
dAIdOOdAUbSIGN NIKAHITcREAHMUKcYUUKALEAPINTUcMUUSIKATOANcTRIISAPcBANTOCcROBATcTOANDAKHIATcKAKABAT
cAHSDAcSAMYOK SANNYAcVIRIAMcCOENGcBATHAMASATcKHANcBARIYOOSANcCAMNUC PII KUUHcLEK TOOcBEYYAL
cPHNAEK MUANcKOOMUUTbCURRENCY SYMBOL RIELbSIGN AVAKRAHASANYAcATTHACAN@17E0bDIGIT ZEROcONEcTWO
cTHREEcFOURcFIVEcSIXcSEVENcEIGHTcNINE@17F0bSYMBOL LEK ATTAK SONeMUOYePIIeBEIeBUONePRAMePRAM-MUOY
ePRAM-PIIePRAM-BEIePRAM-BUON@1800aMONGOLIAN BIRGAbELLIPSISbCOMMAbFULL STOPbCOLONbFOUR DOTS
bTODO SOFT HYPHENbSIBE SYLLABLE BOUNDARY MARKERbMANCHU COMMAcFULL STOPbNIRUGU
bFREE VARIATION SELECTOR ONEeTWOeTHREEbVOWEL SEPARATORbFREE VARIATION SELECTOR FOURbDIGIT ZEROcONE
cTWOcTHREEcFOURcFIVEcSIXcSEVENcEIGHTcNINE@1820bLETTER AcEcIcOcUcOEcUEcEEcNAcANGcBAcPAcQAcGAcMAcLA
cSAcSHAcTAcDAcCHAcJAcYAcRAcWAcFAcKAcKHAcTSAcZAcHAAcZRAcLHAcZHIcCHIcTODO LONG VOWEL SIGNdEdIdOdUdOE
dUEdANGdBAdPAdQAdGAdMAdTAdDAdCHAdJAdTSAdYAdWAdKAdGAAdHAAdJIAdNIAdDZAcSIBE EdIdIYdUEdUdANGdKAdGAdHA
dPAdSHAdTAdDAdJAdFAdGAAdHAAdTSAdZAdRAAdCHAdZHAcMANCHU IdKAdRAdFAdZHAcCHA WITH TWO DOTS
@1880cALI GALI ANUSVARA ONEeVISARGA ONEeDAMARUeUBADAMAeINVERTED UBADAMAeBALUDAeTHREE BALUDAeAeIeKA
eNGAeCAeTTAeTTHAeDDAeNNAeTAeDAePAePHAeSSAeZHAeZAeAHcTODO ALI GALI TAfZHAcMANCHU ALI GALI GHAfNGA
fCAfJHAfTTAfDDHAfTAfDHAfSSAfCYAfZHAfZAcALI GALI HALF UfYAcMANCHU ALI GALI BHAcALI GALI DAGALGA
cMANCHU ALI GALI LHA@18B0aCANADIAN SYLLABICS OYcAYcAAYcWAYcPOYcPAYcPWOYcTAYcKAYcKWAYcMAYcNOYcNAY
cLAYcSOYcSAYcSHOYcSHAYcSHWOYcYOYcYAYcRAYcNWIcOJIBWAY NWIcNWIIcOJIBWAY NWIIcNWOcOJIBWAY NWOcNWOO
cOJIBWAY NWOOcRWEEcRWIcRWIIcRWOcRWOOcRWAcOJIBWAY PdTdKdCdMdNdSdSHcEASTERN WcWESTERN W
cFINAL SMALL RINGdRAISED DOTcR-CREE RWEcWEST-CREE LOOdLAAcTHWEcTHWAcTTHWEcTTHOOcTTHAAcTLHWEcTLHOO
cSAYISI SHWEdSHOOdHOOcCARRIER GWUdDENE GEEdGAAdGWAcSAYISI JUUcCARRIER JWAcBEAVER DENE LeR
cCARRIER DENTAL S@1900aLIMBU VOWEL-CARRIER LETTERbLETTER KAcKHAcGAcGHAcNGAcCAcCHAcJAcJHAcYANcTA
cTHAcDAcDHAcNAcPAcPHAcBAcBHAcMAcYAcRAcLAcWAcSHAcSSAcSAcHAcGYANcTRA@1920bVOWEL SIGN AdIdUdEEdAIdOO
dAUdEdObSUBJOINED LETTER YAdRAdWA@1930bSMALL LETTER KAdNGAdANUSVARAdTAdNAdPAdMAdRAdLA
bSIGN MUKPHRENGcKEMPHRENGcSA-I@1940cLOO@1944bEXCLAMATION MARKbQUESTION MARKbDIGIT ZEROcONEcTWO
cTHREEcFOURcFIVEcSIXcSEVENcEIGHTcNINEaTAI LE LETTER KAdXAdNGAdTSAdSAdYAdTAdTHAdLAdPAdPHAdMAdFAdVA
dHAdQAdKHAdTSHAdNAdAdIdEEdEHdUdOOdOdUEdEdAUEdAI@1970dTONE-2dTONE-3dTONE-4dTONE-5dTONE-6
@1980aNEW TAI LUE LETTER HIGH QAeLOW QAeHIGH KAfXAfNGAeLOW KAfXAfNGAeHIGH TSAfSAfYAeLOW TSAfSAfYA
eHIGH TAfTHAfNAeLOW TAfTHAfNAeHIGH PAfPHAfMAeLOW PAfPHAfMAeHIGH FAfVAfLAeLOW FAfVAfLAeHIGH HAfDA
fBAeLOW HAfDAfBAeHIGH KVAfXVAeLOW KVAfXVAeHIGH SUAeLOW SUA@19B0dVOWEL SIGN VOWEL SHORTENERfAAfIIfU
fUUfEfAEfOfOAfUEfAYfAAYfUYfOYfOAYfUEYfIYdLETTER FINAL VfNGfNfMfKfDfBdTONE MARK-1eMARK-2
@19D0dDIGIT ZEROeONEeTWOeTHREEeFOUReFIVEeSIXeSEVENeEIGHTeNINEdTHAM DIGIT ONE@19DEdSIGN LAEeLAEV
aKHMER SYMBOL PATHAMASATcMUOY KOETcPII KOETcBEI KOETcBUON KOETcPRAM KOETcPRAM-MUOY KOET
cPRAM-PII KOETcPRAM-BEI KOETcPRAM-BUON KOETcDAP KOETcDAP-MUOY KOETcDAP-PII KOETcDAP-BEI KOET
cDAP-BUON KOETcDAP-PRAM KOETcTUTEYASATcMUOY ROCcPII ROCcBEI ROCcBUON ROCcPRAM ROCcPRAM-MUOY ROC
cPRAM-PII ROCcPRAM-BEI ROCcPRAM-BUON ROCcDAP ROCcDAP-MUOY ROCcDAP-PII ROCcDAP-BEI ROCcDAP-BUON ROC
cDAP-PRAM ROCaBUGINESE LETTER KAcGAcNGAcNGKAcPAcBAcMAcMPAcTAcDAcNAcNRAcCAcJAcNYAcNYCAcYAcRAcLAcVA
cSAcAcHAbVOWEL SIGN IdUdEdOdAE@1A1EbPALLAWAbEND OF SECTIONaTAI THAM LETTER HIGH KAeKHAeKXAdLOW KA
eKXAeKHAdNGAdHIGH CAeCHAdLOW CAeSAeCHAdNYAdRATAdHIGH RATHAdDAdLOW RATHAdRANAdHIGH TAeTHAdLOW TA
eTHAdNAdBAdHIGH PAePHAeFAdLOW PAeFAePHAdMAdLOW YAdHIGH YAdRAdRUEdLAdLUEdWAdHIGH SHAeSSAeSAeHAdLLA
dAdLOW HAdIdIIdUdUUdEEdOOdLAEdGREAT SAcCONSONANT SIGN MEDIAL RAfLAeLA TANG LAIcSIGN MAI KANG LAI
cCONSONANT SIGN FINAL NGAeLOW PAeHIGH RATHA OR LOW PAeMAeBAeSA@1A60cSIGN SAKOTcVOWEL SIGN A
eMAI SATeAAeTALL AAeIeIIeUEeUUEeUeUUeOeOA BELOWeOYeEeAEeOOeAIeTHAM AIeOA ABOVEcSIGN MAI KANG
dTONE-1dTONE-2dKHUEN TONE-3eTONE-4eTONE-5dRA HAAMdMAI SAMdKHUEN-LUE KARAN
@1A7FcCOMBINING CRYPTOGRAMMIC DOTcHORA DIGIT ZEROeONEeTWOeTHREEeFOUReFIVEeSIXeSEVENeEIGHTeNINE
@1A90cTHAM DIGIT ZEROeONEeTWOeTHREEeFOUReFIVEeSIXeSEVENeEIGHTeNINE@1AA0cSIGN WIANGdWIANGWAAKdSAWAN
dKEOWdHOYdDOKMAIdREVERSED ROTATED RANAdMAI YAMOKdKAANdKAANKUUdSATKAANdSATKAANKUUdHANGdCAANG
@1AB0aCOMBINING DOUBLED CIRCUMFLEX ACCENTbDIAERESIS-RINGbINFINITYbDOWNWARDS ARROWbTRIPLE DOT
bX-X BELOWbWIGGLY LINE BELOWbOPEN MARK BELOWbDOUBLE OPEN MARK BELOW
bLIGHT CENTRALIZATION STROKE BELOWbSTRONG CENTRALIZATION STROKE BELOWbPARENTHESES ABOVE
bDOUBLE PARENTHESES ABOVEbPARENTHESES BELOWcOVERLAYbLATIN SMALL LETTER W BELOWeTURNED W BELOW
bLEFT PARENTHESIS ABOVE LEFTbRIGHT PARENTHESIS ABOVE RIGHTbLEFT PARENTHESIS BELOW LEFT
bRIGHT PARENTHESIS BELOW RIGHTbSQUARE BRACKETS ABOVEbNUMBER SIGN ABOVEbINVERTED DOUBLE ARCH ABOVE
bPLUS SIGN ABOVEbDOUBLE PLUS SIGN ABOVEeBELOWbTRIPLE ACUTE ACCENTbLATIN SMALL LETTER INSULAR GfRfT
@1B00aBALINESE SIGN ULU RICEMdCANDRAcCECEKcSURANGcBISAHbLETTER AKARAdTEDUNGcIKARAdTEDUNGcUKARA
dTEDUNGcRA REPAeTEDUNGcLA LENGAeTEDUNGcEKARAcAIKARAcOKARAdTEDUNGcKAdMAHAPRANAcGAdGORAcNGAcCAdLACA
cJAdJERAcNYAcTA LATIKdMURDA MAHAPRANAcDA MURDA ALPAPRANAeMAHAPRANAcNA RAMBATcTAdTAWAcDAdMADUcNAcPA
dKAPALcBAdKEMBANGcMAcYAcRAcLAcWAcSA SAGAdSAPAcSAcHAbSIGN REREKANbVOWEL SIGN TEDUNGdULUeSARIdSUKU
eILUTdRA REPAfTEDUNGdLA LENGAfTEDUNGdTALINGeREPAeTEDUNGeREPA TEDUNGdPEPETeTEDUNGbADEG ADEG
bLETTER KAF SASAKcKHOT SASAKcTZIR SASAKcEF SASAKcVE SASAKcZAL SASAKcASYURA SASAKcARCHAIC JNYA
@1B50bDIGIT ZEROcONEcTWOcTHREEcFOURcFIVEcSIXcSEVENcEIGHTcNINEbPANTIbPAMADAbWINDUbCARIK PAMUNGKAH
cSIKIcPARERENbPAMENENGbMUSICAL SYMBOL DONGdDENGdDUNGdDANGeSURANGdDINGdDAENGdDEUNGdDAINGdDANG GEDE
dCOMBINING TEGEHeENDEPeKEMPULeKEMPLIeJEGOGANeKEMPUL WITH JEGOGANeKEMPLI WITH JEGOGANeBENDEeGONG
dRIGHT-HAND OPEN DUGfDAGeCLOSED TUKfTAKdLEFT-HAND OPEN PANGfPUNGeCLOSED PLAKfPLUKeOPEN PING
bPANTI LANTANGbPAMADA LANTANG@1B80aSUNDANESE SIGN PANYECEKcPANGLAYARcPANGWISADbLETTER AcIcUcAEcOcE
cEUcKAcQAcGAcNGAcCAcJAcZAcNYAcTAcDAcNAcPAcFAcVAcBAcMAcYAcRAcLAcWAcSAcXAcHA
bCONSONANT SIGN PAMINGKALdPANYAKRAdPANYIKUbVOWEL SIGN PANGHULUdPANYUKUdPANAELAENGdPANOLONGdPAMEPET
dPANEULEUNGbSIGN PAMAAEHcVIRAMAbCONSONANT SIGN PASANGAN MAeWAbLETTER KHAcSYAbDIGIT ZEROcONEcTWO
cTHREEcFOURcFIVEcSIXcSEVENcEIGHTcNINEbAVAGRAHAbLETTER REUcLEUcBHAcFINAL KdMaBATAK LETTER A
cSIMALUNGUN AcHAcSIMALUNGUN HAcMANDAILING HAcBAcKARO BAcPAcSIMALUNGUN PAcNAcMANDAILING NAcWA
cSIMALUNGUN WAcPAKPAK WAcGAcSIMALUNGUN GAcJAcDAcRAcSIMALUNGUN RAcMAcSIMALUNGUN MAcSOUTHERN TA
cNORTHERN TAcSAcSIMALUNGUN SAcMANDAILING SAcYAcSIMALUNGUN YAcNGAcLAcSIMALUNGUN LAcNYAcCAcNDAcMBAcI
cUbSIGN TOMPIbVOWEL SIGN EdPAKPAK EdEEdIdKARO IdOdKARO OdUeFOR SIMALUNGUN SAbCONSONANT SIGN NGdH
bPANGOLATbPANONGONAN@1BFCbSYMBOL BINDU NA METEKdPINARBORASdJUDULdPANGOLATaLEPCHA LETTER KAcKLAcKHA
cGAcGLAcNGAcCAcCHAcJAcNYAcTAcTHAcDAcNAcPAcPLAcPHAcFAcFLAcBAcBLAcMAcMLAcTSAcTSHAcDZAcYAcRAcLAcHA
cHLAcVAcSAcSHAcWAcAbSUBJOINED LETTER YAdRAbVOWEL SIGN AAdIdOdOOdUdUUdEbCONSONANT SIGN KdMdLdNdPdR
dTdNYIN-DOdKANGbSIGN RANcNUKTA@1C3BbPUNCTUATION TA-ROLcNYET THYOOM TA-ROLcCER-WAcTSHOOK CER-WA
cTSHOOKbDIGIT ZEROcONEcTWOcTHREEcFOURcFIVEcSIXcSEVENcEIGHTcNINE@1C4DbLETTER TTAcTTHAcDDA
aOL CHIKI DIGIT ZEROdONEdTWOdTHREEdFOURdFIVEdSIXdSEVENdEIGHTdNINEcLETTER LAdATdAGdANGdALdLAAdAAK
dAAJdAAMdAAWdLIdISdIHdINYdIRdLUdUCdUDdUNNdUYdLEdEPdEDDdENdERRdLOdOTTdOBdOVdOHcMU TTUDDAG
cGAAHLAA TTUDDAAGcMU-GAAHLAA TTUDDAAGcRELAAcPHAARKAAcAHADcPUNCTUATION MUCAADdDOUBLE MUCAAD
aCYRILLIC SMALL LETTER ROUNDED VEdLONG-LEGGED DEdNARROW OdWIDE ESdTALL TEdTHREE-LEGGED TE
dTALL HARD SIGNeYATdUNBLENDED UK@1C90aGEORGIAN MTAVRULI CAPITAL LETTER ANeBANeGANeDONeENeVINeZEN
eTANeINeKANeLASeMANeNAReONePAReZHAReRAEeSANeTAReUNePHAReKHAReGHANeQAReSHINeCHINeCANeJILeCILeCHAR
eXANeJHANeHAEeHEeHIEeWEeHAReHOEeFIeYNeELIFIeTURNED GANeAIN@1CBDeAENeHARD SIGNeLABIAL SIGN
aSUNDANESE PUNCTUATION BINDU SURYAdPANGLONGdPURNAMAdCAKRAdLEU SATANGAdKA SATANGAdDA SATANGA
dBA SATANGA@1CD0aVEDIC TONE KARSHANAcSHARAcPRENKHAbSIGN NIHSHVASAcYAJURVEDIC MIDLINE SVARITA
bTONE YAJURVEDIC AGGRAVATED INDEPENDENT SVARITAdINDEPENDENT SVARITAdKATHAKA INDEPENDENT SVARITA
cCANDRA BELOWcYAJURVEDIC KATHAKA INDEPENDENT SVARITA SCHROEDERcDOUBLE SVARITAcTRIPLE SVARITA
cKATHAKA ANUDATTAcDOT BELOWcTWO DOTS BELOWcTHREE DOTS BELOWcRIGVEDIC KASHMIRI INDEPENDENT SVARITA
cATHARVAVEDIC INDEPENDENT SVARITAbSIGN VISARGA SVARITAdUDATTAcREVERSED VISARGA UDATTA
cVISARGA ANUDATTAcREVERSED VISARGA ANUDATTAcVISARGA UDATTA WITH TAILdANUDATTA WITH TAIL
cANUSVARA ANTARGOMUKHAdBAHIRGOMUKHAdVAMAGOMUKHAeWITH TAILcTIRYAKcHEXIFORM LONG ANUSVARA
cLONG ANUSVARAcRTHANG LONG ANUSVARAcANUSVARA UBHAYATO MUKHAcARDHAVISARGAcROTATED ARDHAVISARGA
bTONE CANDRA ABOVEbSIGN JIHVAMULIYAcUPADHMANIYAcATIKRAMAbTONE RING ABOVEcDOUBLE RING ABOVE
bSIGN DOUBLE ANUSVARA ANTARGOMUKHA@1D00aLATIN LETTER SMALL CAPITAL AeAEbSMALL LETTER TURNED AE
bLETTER SMALL CAPITAL BARRED BeCeDeETHeEbSMALL LETTER TURNED OPEN EeIbLETTER SMALL CAPITAL JeK
eL WITH STROKEeMeREVERSED NeOeOPEN ObSMALL LETTER SIDEWAYS OeOPEN OeO WITH STROKEdTURNED OE
bLETTER SMALL CAPITAL OUbSMALL LETTER TOP HALF OdBOTTOM HALF ObLETTER SMALL CAPITAL PeREVERSED R
eTURNED ReTeUbSMALL LETTER SIDEWAYS UeDIAERESIZED UeTURNED MbLETTER SMALL CAPITAL VeWeZeEZH
cVOICED LARYNGEAL SPIRANTcAINaGREEK LETTER SMALL CAPITAL GAMMAeLAMDAePIeRHOePSI
aCYRILLIC LETTER SMALL CAPITAL ELaMODIFIER LETTER CAPITAL AdAEdBdBARRED BdDdEdREVERSED EdGdHdIdJdK
dLdMdNdREVERSED NdOdOUdPdRdTdUdWcSMALL AdTURNED AdALPHAdTURNED AEdBdDdEdSCHWAdOPEN EdTURNED OPEN E
dGdTURNED IdKdMdENGdOdOPEN OdTOP HALF OdBOTTOM HALF OdPdTdUdSIDEWAYS UdTURNED MdVdAINdBETA
dGREEK GAMMAdDELTAdGREEK PHIdCHIaLATIN SUBSCRIPT SMALL LETTER IeReUeV
aGREEK SUBSCRIPT SMALL LETTER BETAeGAMMAeRHOePHIeCHIaLATIN SMALL LETTER UEdB WITH MIDDLE TILDE
dD WITH MIDDLE TILDEdF WITH MIDDLE TILDEdM WITH MIDDLE TILDEdN WITH MIDDLE TILDE
dP WITH MIDDLE TILDEdR WITH MIDDLE TILDEfFISHHOOK AND MIDDLE TILDEdS WITH MIDDLE TILDE
dT WITH MIDDLE TILDEdZ WITH MIDDLE TILDEdTURNED GaMODIFIER LETTER CYRILLIC EN
aLATIN SMALL LETTER INSULAR GdTH WITH STRIKETHROUGHcCAPITAL LETTER I WITH STROKE
cLETTER IOTA WITH STROKEdP WITH STROKEcCAPITAL LETTER U WITH STROKEcLETTER UPSILON WITH STROKE
dB WITH PALATAL HOOKdD WITH PALATAL HOOKdF WITH PALATAL HOOKdG WITH PALATAL HOOK
dK WITH PALATAL HOOKdL WITH PALATAL HOOKdM WITH PALATAL HOOKdN WITH PALATAL HOOK
dP WITH PALATAL HOOKdR WITH PALATAL HOOKdS WITH PALATAL HOOKdESH WITH PALATAL HOOK
dV WITH PALATAL HOOKdX WITH PALATAL HOOKdZ WITH PALATAL HOOKdA WITH RETROFLEX HOOK
dALPHA WITH RETROFLEX HOOKdD WITH HOOK AND TAILdE WITH RETROFLEX HOOKdOPEN E WITH RETROFLEX HOOK
dREVERSED OPEN E WITH RETROFLEX HOOKdSCHWA WITH RETROFLEX HOOKdI WITH RETROFLEX HOOK
dOPEN O WITH RETROFLEX HOOKdESH WITH RETROFLEX HOOKdU WITH RETROFLEX HOOKdEZH WITH RETROFLEX HOOK
aMODIFIER LETTER SMALL TURNED ALPHAdCeWITH CURLdETHdREVERSED OPEN EdFdDOTLESS J WITH STROKE
dSCRIPT GdTURNED HdI WITH STROKEdIOTAdCAPITAL IfWITH STROKEdJ WITH CROSSED-TAIL
dL WITH RETROFLEX HOOKfPALATAL HOOKdCAPITAL LdM WITH HOOKdTURNED M WITH LONG LEGdN WITH LEFT HOOK
fRETROFLEX HOOKdCAPITAL NdBARRED OdPHIdS WITH HOOKdESHdT WITH PALATAL HOOKdU BARdUPSILONdCAPITAL U
dV WITH HOOKdTURNED VdZeWITH RETROFLEX HOOKfCURLdEZHdTHETAaCOMBINING DOTTED GRAVE ACCENT
cACUTE ACCENTbSNAKE BELOWbSUSPENSION MARKbMACRON-ACUTEbGRAVE-MACRONbMACRON-GRAVEbACUTE-MACRON
bGRAVE-ACUTE-GRAVEbACUTE-GRAVE-ACUTEbLATIN SMALL LETTER R BELOWbBREVE-MACRONbMACRON-BREVE
bDOUBLE CIRCUMFLEX ABOVEbOGONEK ABOVEbZIGZAG BELOWbIS BELOWbUR ABOVEbUS ABOVE
bLATIN SMALL LETTER FLATTENED OPEN A ABOVEeAEeAOeAVeC CEDILLAeINSULAR DeETHeG
cLETTER SMALL CAPITAL GcSMALL LETTER KeLcLETTER SMALL CAPITAL LfMcSMALL LETTER N
cLETTER SMALL CAPITAL NfRcSMALL LETTER R ROTUNDAeSeLONG SeZeALPHAeBeBETAeSCHWAeF
eL WITH DOUBLE MIDDLE TILDEeO WITH LIGHT CENTRALIZATION STROKEePeESH
eU WITH LIGHT CENTRALIZATION STROKEeWeA WITH DIAERESISeO WITH DIAERESISeU WITH DIAERESIS
bUP TACK ABOVEbKAVYKA ABOVE RIGHTdLEFTbDOT ABOVE LEFTbWIDE INVERTED BRIDGE BELOWbDOT BELOW LEFT
bDELETION MARKbDOUBLE INVERTED BREVE BELOWbALMOST EQUAL TO BELOWbLEFT ARROWHEAD ABOVE
bRIGHT ARROWHEAD AND DOWN ARROWHEAD BELOWaLATIN CAPITAL LETTER A WITH RING BELOW
bSMALL LETTER A WITH RING BELOWbCAPITAL LETTER B WITH DOT ABOVEbSMALL LETTER B WITH DOT ABOVE
bCAPITAL LETTER B WITH DOT BELOWbSMALL LETTER B WITH DOT BELOWbCAPITAL LETTER B WITH LINE BELOW
bSMALL LETTER B WITH LINE BELOWbCAPITAL LETTER C WITH CEDILLA AND ACUTE
bSMALL LETTER C WITH CEDILLA AND ACUTEbCAPITAL LETTER D WITH DOT ABOVE
bSMALL LETTER D WITH DOT ABOVEbCAPITAL LETTER D WITH DOT BELOWbSMALL LETTER D WITH DOT BELOW
bCAPITAL LETTER D WITH LINE BELOWbSMALL LETTER D WITH LINE BELOWbCAPITAL LETTER D WITH CEDILLA
bSMALL LETTER D WITH CEDILLAbCAPITAL LETTER D WITH CIRCUMFLEX BELOW
bSMALL LETTER D WITH CIRCUMFLEX BELOWbCAPITAL LETTER E WITH MACRON AND GRAVE
bSMALL LETTER E WITH MACRON AND GRAVEbCAPITAL LETTER E WITH MACRON AND ACUTE
bSMALL LETTER E WITH MACRON AND ACUTEbCAPITAL LETTER E WITH CIRCUMFLEX BELOW
bSMALL LETTER E WITH CIRCUMFLEX BELOWbCAPITAL LETTER E WITH TILDE BELOW
bSMALL LETTER E WITH TILDE BELOWbCAPITAL LETTER E WITH CEDILLA AND BREVE
bSMALL LETTER E WITH CEDILLA AND BREVEbCAPITAL LETTER F WITH DOT ABOVE
bSMALL LETTER F WITH DOT ABOVEbCAPITAL LETTER G WITH MACRONbSMALL LETTER G WITH MACRON
bCAPITAL LETTER H WITH DOT ABOVEbSMALL LETTER H WITH DOT ABOVEbCAPITAL LETTER H WITH DOT BELOW
bSMALL LETTER H WITH DOT BELOWbCAPITAL LETTER H WITH DIAERESISbSMALL LETTER H WITH DIAERESIS
bCAPITAL LETTER H WITH CEDILLAbSMALL LETTER H WITH CEDILLAbCAPITAL LETTER H WITH BREVE BELOW
bSMALL LETTER H WITH BREVE BELOWbCAPITAL LETTER I WITH TILDE BELOWbSMALL LETTER I WITH TILDE BELOW
bCAPITAL LETTER I WITH DIAERESIS AND ACUTEbSMALL LETTER I WITH DIAERESIS AND ACUTE
bCAPITAL LETTER K WITH ACUTEbSMALL LETTER K WITH ACUTEbCAPITAL LETTER K WITH DOT BELOW
bSMALL LETTER K WITH DOT BELOWbCAPITAL LETTER K WITH LINE BELOWbSMALL LETTER K WITH LINE BELOW
bCAPITAL LETTER L WITH DOT BELOWbSMALL LETTER L WITH DOT BELOW
bCAPITAL LETTER L WITH DOT BELOW AND MACRONbSMALL LETTER L WITH DOT BELOW AND MACRON
bCAPITAL LETTER L WITH LINE BELOWbSMALL LETTER L WITH LINE BELOW
bCAPITAL LETTER L WITH CIRCUMFLEX BELOWbSMALL LETTER L WITH CIRCUMFLEX BELOW
bCAPITAL LETTER M WITH ACUTEbSMALL LETTER M WITH ACUTEbCAPITAL LETTER M WITH DOT ABOVE
bSMALL LETTER M WITH DOT ABOVEbCAPITAL LETTER M WITH DOT BELOWbSMALL LETTER M WITH DOT BELOW
bCAPITAL LETTER N WITH DOT ABOVEbSMALL LETTER N WITH DOT ABOVEbCAPITAL LETTER N WITH DOT BELOW
bSMALL LETTER N WITH DOT BELOWbCAPITAL LETTER N WITH LINE BELOWbSMALL LETTER N WITH LINE BELOW
bCAPITAL LETTER N WITH CIRCUMFLEX BELOWbSMALL LETTER N WITH CIRCUMFLEX BELOW
bCAPITAL LETTER O WITH TILDE AND ACUTEbSMALL LETTER O WITH TILDE AND ACUTE
bCAPITAL LETTER O WITH TILDE AND DIAERESISbSMALL LETTER O WITH TILDE AND DIAERESIS
bCAPITAL LETTER O WITH MACRON AND GRAVEbSMALL LETTER O WITH MACRON AND GRAVE
bCAPITAL LETTER O WITH MACRON AND ACUTEbSMALL LETTER O WITH MACRON AND ACUTE
bCAPITAL LETTER P WITH ACUTEbSMALL LETTER P WITH ACUTEbCAPITAL LETTER P WITH DOT ABOVE
bSMALL LETTER P WITH DOT ABOVEbCAPITAL LETTER R WITH DOT ABOVEbSMALL LETTER R WITH DOT ABOVE
bCAPITAL LETTER R WITH DOT BELOWbSMALL LETTER R WITH DOT BELOW
bCAPITAL LETTER R WITH DOT BELOW AND MACRONbSMALL LETTER R WITH DOT BELOW AND MACRON
bCAPITAL LETTER R WITH LINE BELOWbSMALL LETTER R WITH LINE BELOWbCAPITAL LETTER S WITH DOT ABOVE
bSMALL LETTER S WITH DOT ABOVEbCAPITAL LETTER S WITH DOT BELOWbSMALL LETTER S WITH DOT BELOW
bCAPITAL LETTER S WITH ACUTE AND DOT ABOVEbSMALL LETTER S WITH ACUTE AND DOT ABOVE
bCAPITAL LETTER S WITH CARON AND DOT ABOVEbSMALL LETTER S WITH CARON AND DOT ABOVE
bCAPITAL LETTER S WITH DOT BELOW AND DOT ABOVEbSMALL LETTER S WITH DOT BELOW AND DOT ABOVE
bCAPITAL LETTER T WITH DOT ABOVEbSMALL LETTER T WITH DOT ABOVEbCAPITAL LETTER T WITH DOT BELOW
bSMALL LETTER T WITH DOT BELOWbCAPITAL LETTER T WITH LINE BELOWbSMALL LETTER T WITH LINE BELOW
bCAPITAL LETTER T WITH CIRCUMFLEX BELOWbSMALL LETTER T WITH CIRCUMFLEX BELOW
bCAPITAL LETTER U WITH DIAERESIS BELOWbSMALL LETTER U WITH DIAERESIS BELOW
bCAPITAL LETTER U WITH TILDE BELOWbSMALL LETTER U WITH TILDE BELOW
bCAPITAL LETTER U WITH CIRCUMFLEX BELOWbSMALL LETTER U WITH CIRCUMFLEX BELOW
bCAPITAL LETTER U WITH TILDE AND ACUTEbSMALL LETTER U WITH TILDE AND ACUTE
bCAPITAL LETTER U WITH MACRON AND DIAERESISbSMALL LETTER U WITH MACRON AND DIAERESIS
bCAPITAL LETTER V WITH TILDEbSMALL LETTER V WITH TILDEbCAPITAL LETTER V WITH DOT BELOW
bSMALL LETTER V WITH DOT BELOWbCAPITAL LETTER W WITH GRAVEbSMALL LETTER W WITH GRAVE
bCAPITAL LETTER W WITH ACUTEbSMALL LETTER W WITH ACUTEbCAPITAL LETTER W WITH DIAERESIS
bSMALL LETTER W WITH DIAERESISbCAPITAL LETTER W WITH DOT ABOVEbSMALL LETTER W WITH DOT ABOVE
bCAPITAL LETTER W WITH DOT BELOWbSMALL LETTER W WITH DOT BELOWbCAPITAL LETTER X WITH DOT ABOVE
bSMALL LETTER X WITH DOT ABOVEbCAPITAL LETTER X WITH DIAERESISbSMALL LETTER X WITH DIAERESIS
bCAPITAL LETTER Y WITH DOT ABOVEbSMALL LETTER Y WITH DOT ABOVEbCAPITAL LETTER Z WITH CIRCUMFLEX
bSMALL LETTER Z WITH CIRCUMFLEXbCAPITAL LETTER Z WITH DOT BELOWbSMALL LETTER Z WITH DOT BELOW
bCAPITAL LETTER Z WITH LINE BELOWbSMALL LETTER Z WITH LINE BELOWdH WITH LINE BELOW
dT WITH DIAERESISdW WITH RING ABOVEdY WITH RING ABOVEdA WITH RIGHT HALF RINGdLONG S WITH DOT ABOVE
gDIAGONAL STROKEgHIGH STROKEbCAPITAL LETTER SHARP SbSMALL LETTER DELTA
bCAPITAL LETTER A WITH DOT BELOWbSMALL LETTER A WITH DOT BELOWbCAPITAL LETTER A WITH HOOK ABOVE
bSMALL LETTER A WITH HOOK ABOVEbCAPITAL LETTER A WITH CIRCUMFLEX AND ACUTE
bSMALL LETTER A WITH CIRCUMFLEX AND ACUTEbCAPITAL LETTER A WITH CIRCUMFLEX AND GRAVE
bSMALL LETTER A WITH CIRCUMFLEX AND GRAVEbCAPITAL LETTER A WITH CIRCUMFLEX AND HOOK ABOVE
bSMALL LETTER A WITH CIRCUMFLEX AND HOOK ABOVEbCAPITAL LETTER A WITH CIRCUMFLEX AND TILDE
bSMALL LETTER A WITH CIRCUMFLEX AND TILDEbCAPITAL LETTER A WITH CIRCUMFLEX AND DOT BELOW
bSMALL LETTER A WITH CIRCUMFLEX AND DOT BELOWbCAPITAL LETTER A WITH BREVE AND ACUTE
bSMALL LETTER A WITH BREVE AND ACUTEbCAPITAL LETTER A WITH BREVE AND GRAVE
bSMALL LETTER A WITH BREVE AND GRAVEbCAPITAL LETTER A WITH BREVE AND HOOK ABOVE
bSMALL LETTER A WITH BREVE AND HOOK ABOVEbCAPITAL LETTER A WITH BREVE AND TILDE
bSMALL LETTER A WITH BREVE AND TILDEbCAPITAL LETTER A WITH BREVE AND DOT BELOW
bSMALL LETTER A WITH BREVE AND DOT BELOWbCAPITAL LETTER E WITH DOT BELOW
bSMALL LETTER E WITH DOT BELOWbCAPITAL LETTER E WITH HOOK ABOVEbSMALL LETTER E WITH HOOK ABOVE
bCAPITAL LETTER E WITH TILDEbSMALL LETTER E WITH TILDEbCAPITAL LETTER E WITH CIRCUMFLEX AND ACUTE
bSMALL LETTER E WITH CIRCUMFLEX AND ACUTEbCAPITAL LETTER E WITH CIRCUMFLEX AND GRAVE
bSMALL LETTER E WITH CIRCUMFLEX AND GRAVEbCAPITAL LETTER E WITH CIRCUMFLEX AND HOOK ABOVE
bSMALL LETTER E WITH CIRCUMFLEX AND HOOK ABOVEbCAPITAL LETTER E WITH CIRCUMFLEX AND TILDE
bSMALL LETTER E WITH CIRCUMFLEX AND TILDEbCAPITAL LETTER E WITH CIRCUMFLEX AND DOT BELOW
bSMALL LETTER E WITH CIRCUMFLEX AND DOT BELOWbCAPITAL LETTER I WITH HOOK ABOVE
bSMALL LETTER I WITH HOOK ABOVEbCAPITAL LETTER I WITH DOT BELOWbSMALL LETTER I WITH DOT BELOW
bCAPITAL LETTER O WITH DOT BELOWbSMALL LETTER O WITH DOT BELOWbCAPITAL LETTER O WITH HOOK ABOVE
bSMALL LETTER O WITH HOOK ABOVEbCAPITAL LETTER O WITH CIRCUMFLEX AND ACUTE
bSMALL LETTER O WITH CIRCUMFLEX AND ACUTEbCAPITAL LETTER O WITH CIRCUMFLEX AND GRAVE
bSMALL LETTER O WITH CIRCUMFLEX AND GRAVEbCAPITAL LETTER O WITH CIRCUMFLEX AND HOOK ABOVE
bSMALL LETTER O WITH CIRCUMFLEX AND HOOK ABOVEbCAPITAL LETTER O WITH CIRCUMFLEX AND TILDE
bSMALL LETTER O WITH CIRCUMFLEX AND TILDEbCAPITAL LETTER O WITH CIRCUMFLEX AND DOT BELOW
bSMALL LETTER O WITH CIRCUMFLEX AND DOT BELOWbCAPITAL LETTER O WITH HORN AND ACUTE
bSMALL LETTER O WITH HORN AND ACUTEbCAPITAL LETTER O WITH HORN AND GRAVE
bSMALL LETTER O WITH HORN AND GRAVEbCAPITAL LETTER O WITH HORN AND HOOK ABOVE
bSMALL LETTER O WITH HORN AND HOOK ABOVEbCAPITAL LETTER O WITH HORN AND TILDE
bSMALL LETTER O WITH HORN AND TILDEbCAPITAL LETTER O WITH HORN AND DOT BELOW
bSMALL LETTER O WITH HORN AND DOT BELOWbCAPITAL LETTER U WITH DOT BELOW
bSMALL LETTER U WITH DOT BELOWbCAPITAL LETTER U WITH HOOK ABOVEbSMALL LETTER U WITH HOOK ABOVE
bCAPITAL LETTER U WITH HORN AND ACUTEbSMALL LETTER U WITH HORN AND ACUTE
bCAPITAL LETTER U WITH HORN AND GRAVEbSMALL LETTER U WITH HORN AND GRAVE
bCAPITAL LETTER U WITH HORN AND HOOK ABOVEbSMALL LETTER U WITH HORN AND HOOK ABOVE
bCAPITAL LETTER U WITH HORN AND TILDEbSMALL LETTER U WITH HORN AND TILDE
bCAPITAL LETTER U WITH HORN AND DOT BELOWbSMALL LETTER U WITH HORN AND DOT BELOW
bCAPITAL LETTER Y WITH GRAVEbSMALL LETTER Y WITH GRAVEbCAPITAL LETTER Y WITH DOT BELOW
bSMALL LETTER Y WITH DOT BELOWbCAPITAL LETTER Y WITH HOOK ABOVEbSMALL LETTER Y WITH HOOK ABOVE
bCAPITAL LETTER Y WITH TILDEbSMALL LETTER Y WITH TILDEbCAPITAL LETTER MIDDLE-WELSH LL
bSMALL LETTER MIDDLE-WELSH LLbCAPITAL LETTER MIDDLE-WELSH VbSMALL LETTER MIDDLE-WELSH V
bCAPITAL LETTER Y WITH LOOPbSMALL LETTER Y WITH LOOPaGREEK SMALL LETTER ALPHA WITH PSILIfDASIA
fPSILI AND VARIAfDASIA AND VARIAfPSILI AND OXIAfDASIA AND OXIAfPSILI AND PERISPOMENI
fDASIA AND PERISPOMENIbCAPITAL LETTER ALPHA WITH PSILIfDASIAfPSILI AND VARIAfDASIA AND VARIA
fPSILI AND OXIAfDASIA AND OXIAfPSILI AND PERISPOMENIfDASIA AND PERISPOMENI
bSMALL LETTER EPSILON WITH PSILIfDASIAfPSILI AND VARIAfDASIA AND VARIAfPSILI AND OXIA
fDASIA AND OXIA@1F18bCAPITAL LETTER EPSILON WITH PSILIfDASIAfPSILI AND VARIAfDASIA AND VARIA
fPSILI AND OXIAfDASIA AND OXIA@1F20bSMALL LETTER ETA WITH PSILIfDASIAfPSILI AND VARIA
fDASIA AND VARIAfPSILI AND OXIAfDASIA AND OXIAfPSILI AND PERISPOMENIfDASIA AND PERISPOMENI
bCAPITAL LETTER ETA WITH PSILIfDASIAfPSILI AND VARIAfDASIA AND VARIAfPSILI AND OXIAfDASIA AND OXIA
fPSILI AND PERISPOMENIfDASIA AND PERISPOMENIbSMALL LETTER IOTA WITH PSILIfDASIAfPSILI AND VARIA
fDASIA AND VARIAfPSILI AND OXIAfDASIA AND OXIAfPSILI AND PERISPOMENIfDASIA AND PERISPOMENI
bCAPITAL LETTER IOTA WITH PSILIfDASIAfPSILI AND VARIAfDASIA AND VARIAfPSILI AND OXIA
fDASIA AND OXIAfPSILI AND PERISPOMENIfDASIA AND PERISPOMENIbSMALL LETTER OMICRON WITH PSILIfDASIA
fPSILI AND VARIAfDASIA AND VARIAfPSILI AND OXIAfDASIA AND OXIA
@1F48bCAPITAL LETTER OMICRON WITH PSILIfDASIAfPSILI AND VARIAfDASIA AND VARIAfPSILI AND OXIA
fDASIA AND OXIA@1F50bSMALL LETTER UPSILON WITH PSILIfDASIAfPSILI AND VARIAfDASIA AND VARIA
fPSILI AND OXIAfDASIA AND OXIAfPSILI AND PERISPOMENIfDASIA AND PERISPOMENI
@1F59bCAPITAL LETTER UPSILON WITH DASIA@1F5BgAND VARIA@1F5DhOXIA@1F5FhPERISPOMENI
bSMALL LETTER OMEGA WITH PSILIfDASIAfPSILI AND VARIAfDASIA AND VARIAfPSILI AND OXIAfDASIA AND OXIA
fPSILI AND PERISPOMENIfDASIA AND PERISPOMENIbCAPITAL LETTER OMEGA WITH PSILIfDASIAfPSILI AND VARIA
fDASIA AND VARIAfPSILI AND OXIAfDASIA AND OXIAfPSILI AND PERISPOMENIfDASIA AND PERISPOMENI
bSMALL LETTER ALPHA WITH VARIAfOXIAdEPSILON WITH VARIAfOXIAdETA WITH VARIAfOXIAdIOTA WITH VARIA
fOXIAdOMICRON WITH VARIAfOXIAdUPSILON WITH VARIAfOXIAdOMEGA WITH VARIAfOXIA
@1F80dALPHA WITH PSILI AND YPOGEGRAMMENIfDASIA AND YPOGEGRAMMENIfPSILI AND VARIA AND YPOGEGRAMMENI
fDASIA AND VARIA AND YPOGEGRAMMENIfPSILI AND OXIA AND YPOGEGRAMMENI
fDASIA AND OXIA AND YPOGEGRAMMENIfPSILI AND PERISPOMENI AND YPOGEGRAMMENI
fDASIA AND PERISPOMENI AND YPOGEGRAMMENIbCAPITAL LETTER ALPHA WITH PSILI AND PROSGEGRAMMENI
fDASIA AND PROSGEGRAMMENIfPSILI AND VARIA AND PROSGEGRAMMENIfDASIA AND VARIA AND PROSGEGRAMMENI
fPSILI AND OXIA AND PROSGEGRAMMENIfDASIA AND OXIA AND PROSGEGRAMMENI
fPSILI AND PERISPOMENI AND PROSGEGRAMMENIfDASIA AND PERISPOMENI AND PROSGEGRAMMENI
bSMALL LETTER ETA WITH PSILI AND YPOGEGRAMMENIfDASIA AND YPOGEGRAMMENI
fPSILI AND VARIA AND YPOGEGRAMMENIfDASIA AND VARIA AND YPOGEGRAMMENI
fPSILI AND OXIA AND YPOGEGRAMMENIfDASIA AND OXIA AND YPOGEGRAMMENI
fPSILI AND PERISPOMENI AND YPOGEGRAMMENIfDASIA AND PERISPOMENI AND YPOGEGRAMMENI
bCAPITAL LETTER ETA WITH PSILI AND PROSGEGRAMMENIfDASIA AND PROSGEGRAMMENI
fPSILI AND VARIA AND PROSGEGRAMMENIfDASIA AND VARIA AND PROSGEGRAMMENI
fPSILI AND OXIA AND PROSGEGRAMMENIfDASIA AND OXIA AND PROSGEGRAMMENI
fPSILI AND PERISPOMENI AND PROSGEGRAMMENIfDASIA AND PERISPOMENI AND PROSGEGRAMMENI
bSMALL LETTER OMEGA WITH PSILI AND YPOGEGRAMMENIfDASIA AND YPOGEGRAMMENI
fPSILI AND VARIA AND YPOGEGRAMMENIfDASIA AND VARIA AND YPOGEGRAMMENI
fPSILI AND OXIA AND YPOGEGRAMMENIfDASIA AND OXIA AND YPOGEGRAMMENI
fPSILI AND PERISPOMENI AND YPOGEGRAMMENIfDASIA AND PERISPOMENI AND YPOGEGRAMMENI
bCAPITAL LETTER OMEGA WITH PSILI AND PROSGEGRAMMENIfDASIA AND PROSGEGRAMMENI
fPSILI AND VARIA AND PROSGEGRAMMENIfDASIA AND VARIA AND PROSGEGRAMMENI
fPSILI AND OXIA AND PROSGEGRAMMENIfDASIA AND OXIA AND PROSGEGRAMMENI
fPSILI AND PERISPOMENI AND PROSGEGRAMMENIfDASIA AND PERISPOMENI AND PROSGEGRAMMENI
bSMALL LETTER ALPHA WITH VRACHYfMACRONfVARIA AND YPOGEGRAMMENIfYPOGEGRAMMENI
fOXIA AND YPOGEGRAMMENI@1FB6fPERISPOMENIgAND YPOGEGRAMMENIbCAPITAL LETTER ALPHA WITH VRACHYfMACRON
fVARIAfOXIAfPROSGEGRAMMENIbKORONISbPROSGEGRAMMENIbPSILIbPERISPOMENIbDIALYTIKA AND PERISPOMENI
bSMALL LETTER ETA WITH VARIA AND YPOGEGRAMMENIfYPOGEGRAMMENIfOXIA AND YPOGEGRAMMENI
@1FC6fPERISPOMENIgAND YPOGEGRAMMENIbCAPITAL LETTER EPSILON WITH VARIAfOXIAdETA WITH VARIAfOXIA
fPROSGEGRAMMENIbPSILI AND VARIAdOXIAdPERISPOMENIbSMALL LETTER IOTA WITH VRACHYfMACRON
fDIALYTIKA AND VARIAhOXIA@1FD6fPERISPOMENIfDIALYTIKA AND PERISPOMENI
bCAPITAL LETTER IOTA WITH VRACHYfMACRONfVARIAfOXIA@1FDDbDASIA AND VARIAdOXIAdPERISPOMENI
bSMALL LETTER UPSILON WITH VRACHYfMACRONfDIALYTIKA AND VARIAhOXIAdRHO WITH PSILIfDASIA
dUPSILON WITH PERISPOMENIfDIALYTIKA AND PERISPOMENIbCAPITAL LETTER UPSILON WITH VRACHYfMACRON
fVARIAfOXIAdRHO WITH DASIAbDIALYTIKA AND VARIAdOXIAbVARIA
@1FF2bSMALL LETTER OMEGA WITH VARIA AND YPOGEGRAMMENIfYPOGEGRAMMENIfOXIA AND YPOGEGRAMMENI
@1FF6fPERISPOMENIgAND YPOGEGRAMMENIbCAPITAL LETTER OMICRON WITH VARIAfOXIAdOMEGA WITH VARIAfOXIA
fPROSGEGRAMMENIbOXIAbDASIA"

end SceneRender.Script.CharacterName
