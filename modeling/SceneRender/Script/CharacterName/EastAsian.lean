/-!
# Names of East Asian characters

The names of East Asian letters, radicals and forms, and of the other scripts from
U+2E00 to U+FFFF.
`CharacterName.find?` says how the lines are read.
-/

namespace SceneRender.Script.CharacterName

/-- The names from U+2E00 to U+FFFF. -/
def eastAsian : String :=
  "@2E00aRIGHT ANGLE SUBSTITUTION MARKERcDOTTED SUBSTITUTION MARKERaLEFT SUBSTITUTION BRACKET
aRIGHT SUBSTITUTION BRACKETaLEFT DOTTED SUBSTITUTION BRACKETaRIGHT DOTTED SUBSTITUTION BRACKET
aRAISED INTERPOLATION MARKERbDOTTED INTERPOLATION MARKERaDOTTED TRANSPOSITION MARKER
aLEFT TRANSPOSITION BRACKETaRIGHT TRANSPOSITION BRACKETaRAISED SQUAREaLEFT RAISED OMISSION BRACKET
aRIGHT RAISED OMISSION BRACKETaEDITORIAL CORONISaPARAGRAPHOSaFORKED PARAGRAPHOS
aREVERSED FORKED PARAGRAPHOSaHYPODIASTOLEaDOTTED OBELOSaDOWNWARDS ANCORAaUPWARDS ANCORA
aDOTTED RIGHT-POINTING ANGLEaDOUBLE OBLIQUE HYPHENaINVERTED INTERROBANGaPALM BRANCH
aHYPHEN WITH DIAERESISaTILDE WITH RING ABOVEaLEFT LOW PARAPHRASE BRACKET
aRIGHT LOW PARAPHRASE BRACKETaTILDE WITH DOT ABOVEdBELOWaLEFT VERTICAL BAR WITH QUILL
aRIGHT VERTICAL BAR WITH QUILLaTOP LEFT HALF BRACKETbRIGHT HALF BRACKETaBOTTOM LEFT HALF BRACKET
bRIGHT HALF BRACKETaLEFT SIDEWAYS U BRACKETaRIGHT SIDEWAYS U BRACKETaLEFT DOUBLE PARENTHESIS
aRIGHT DOUBLE PARENTHESISaTWO DOTS OVER ONE DOT PUNCTUATIONaONE DOT OVER TWO DOTS PUNCTUATION
aSQUARED FOUR DOT PUNCTUATIONaFIVE DOT MARKaREVERSED QUESTION MARKaVERTICAL TILDEaRING POINT
aWORD SEPARATOR MIDDLE DOTaTURNED COMMAaRAISED DOTbCOMMAaTURNED SEMICOLONaDAGGER WITH LEFT GUARD
cRIGHT GUARDaTURNED DAGGERaTOP HALF SECTION SIGNaTWO-EM DASHaTHREE-EM DASHaSTENOGRAPHIC FULL STOP
aVERTICAL SIX DOTSaWIGGLY VERTICAL LINEaCAPITULUMaDOUBLE HYPHENaREVERSED COMMA
aDOUBLE LOW-REVERSED-9 QUOTATION MARKaDASH WITH LEFT UPTURNaDOUBLE SUSPENSION MARK
aINVERTED LOW KAVYKAdWITH KAVYKA ABOVEaLOW KAVYKAcWITH DOTaDOUBLE STACKED COMMAaDOTTED SOLIDUS
aTRIPLE DAGGERaMEDIEVAL COMMAaPARAGRAPHUS MARKaPUNCTUS ELEVATUS MARKaCORNISH VERSE DIVIDER
aCROSS PATTY WITH RIGHT CROSSBARdLEFT CROSSBARaTIRONIAN SIGN CAPITAL ETaMEDIEVAL EXCLAMATION MARK
bQUESTION MARKaLEFT SQUARE BRACKET WITH STROKEaRIGHT SQUARE BRACKET WITH STROKE
aLEFT SQUARE BRACKET WITH DOUBLE STROKEaRIGHT SQUARE BRACKET WITH DOUBLE STROKE
aTOP HALF LEFT PARENTHESIScRIGHT PARENTHESISaBOTTOM HALF LEFT PARENTHESIScRIGHT PARENTHESIS
aOBLIQUE HYPHEN@2E80aCJK RADICAL REPEATcCLIFFcSECOND ONEdTWOdTHREEcPERSONcBOXcTABLEcKNIFE ONEdTWO
cDIVINATIONcSEALcSMALL ONEdTWOcLAME ONEdTWOdTHREEdFOURcSNAKEcTHREADcSNOUT ONEdTWOcHEART ONEdTWO
cHANDcRAP@2E9BcCHOKEcSUNcMOONcDEATHcMOTHERcCIVILIANcWATER ONEdTWOcFIREcPAW ONEdTWO
cSIMPLIFIED HALF TREE TRUNKcCOWcDOGcJADEcBOLT OF CLOTHcEYEcSPIRIT ONEdTWOcBAMBOOcSILK
cC-SIMPLIFIED SILKcNET ONEdTWOdTHREEdFOURcMESHcSHEEPcRAMcEWEcOLDcBRUSH ONEdTWOcMEATcMORTAR
cGRASS ONEdTWOdTHREEcTIGERcCLOTHEScWEST ONEdTWOcC-SIMPLIFIED SEEcSIMPLIFIED HORNcHORN
cC-SIMPLIFIED SPEECHdSHELLcFOOTcC-SIMPLIFIED CARTcSIMPLIFIED WALKcWALK ONEdTWOcCITY
cC-SIMPLIFIED GOLDcLONG ONEdTWOcC-SIMPLIFIED LONGdGATEcMOUND ONEdTWOcRAINcBLUE
cC-SIMPLIFIED TANNED LEATHERdLEAFdWINDdFLYcEAT ONEdTWOdTHREEcC-SIMPLIFIED EATcHEAD
cC-SIMPLIFIED HORSEcBONEcGHOSTcC-SIMPLIFIED FISHdBIRDdSALTcSIMPLIFIED WHEATdYELLOW
cC-SIMPLIFIED FROGcJ-SIMPLIFIED EVENcC-SIMPLIFIED EVENcJ-SIMPLIFIED TOOTHcC-SIMPLIFIED TOOTH
cJ-SIMPLIFIED DRAGONcC-SIMPLIFIED DRAGONcTURTLEcJ-SIMPLIFIED TURTLEcC-SIMPLIFIED TURTLE
@2F00aKANGXI RADICAL ONEcLINEcDOTcSLASHcSECONDcHOOKcTWOcLIDcMANcLEGScENTERcEIGHTcDOWN BOXcCOVER
cICEcTABLEcOPEN BOXcKNIFEcPOWERcWRAPcSPOONcRIGHT OPEN BOXcHIDING ENCLOSUREcTENcDIVINATIONcSEAL
cCLIFFcPRIVATEcAGAINcMOUTHcENCLOSUREcEARTHcSCHOLARcGOdSLOWLYcEVENINGcBIGcWOMANcCHILDcROOFcINCH
cSMALLcLAMEcCORPSEcSPROUTcMOUNTAINcRIVERcWORKcONESELFcTURBANcDRYcSHORT THREADcDOTTED CLIFF
cLONG STRIDEcTWO HANDScSHOOTcBOWcSNOUTcBRISTLEcSTEPcHEARTcHALBERDcDOORcHANDcBRANCHcRAPcSCRIPT
cDIPPERcAXEcSQUAREcNOTcSUNcSAYcMOONcTREEcLACKcSTOPcDEATHcWEAPONcDO NOTcCOMPAREcFURcCLANcSTEAM
cWATERcFIREcCLAWcFATHERcDOUBLE XcHALF TREE TRUNKcSLICEcFANGcCOWcDOGcPROFOUNDcJADEcMELONcTILEcSWEET
cLIFEcUSEcFIELDcBOLT OF CLOTHcSICKNESScDOTTED TENTcWHITEcSKINcDISHcEYEcSPEARcARROWcSTONEcSPIRIT
cTRACKcGRAINcCAVEcSTANDcBAMBOOcRICEcSILKcJARcNETcSHEEPcFEATHERcOLDcANDcPLOWcEARcBRUSHcMEAT
cMINISTERcSELFcARRIVEcMORTARcTONGUEcOPPOSEcBOATcSTOPPINGcCOLORcGRASScTIGERcINSECTcBLOOD
cWALK ENCLOSUREcCLOTHEScWESTcSEEcHORNcSPEECHcVALLEYcBEANcPIGcBADGERcSHELLcREDcRUNcFOOTcBODYcCART
cBITTERcMORNINGcWALKcCITYcWINEcDISTINGUISHcVILLAGEcGOLDcLONGcGATEcMOUNDcSLAVEcSHORT TAILED BIRD
cRAINcBLUEcWRONGcFACEcLEATHERcTANNED LEATHERcLEEKcSOUNDcLEAFcWINDcFLYcEATcHEADcFRAGRANTcHORSEcBONE
cTALLcHAIRcFIGHTcSACRIFICIAL WINEcCAULDRONcGHOSTcFISHcBIRDcSALTcDEERcWHEATcHEMPcYELLOWcMILLET
cBLACKcEMBROIDERYcFROGcTRIPODcDRUMcRATcNOSEcEVENcTOOTHcDRAGONcTURTLEcFLUTE
@2FF0aIDEOGRAPHIC DESCRIPTION CHARACTER LEFT TO RIGHTdABOVE TO BELOWdLEFT TO MIDDLE AND RIGHT
dABOVE TO MIDDLE AND BELOWdFULL SURROUNDdSURROUND FROM ABOVEfBELOWfLEFTfUPPER LEFTgRIGHT
fLOWER LEFTdOVERLAID@3000bSPACEbCOMMAbFULL STOPaDITTO MARKaJAPANESE INDUSTRIAL STANDARD SYMBOL
aIDEOGRAPHIC ITERATION MARKbCLOSING MARKbNUMBER ZEROaLEFT ANGLE BRACKETaRIGHT ANGLE BRACKET
aLEFT DOUBLE ANGLE BRACKETaRIGHT DOUBLE ANGLE BRACKETaLEFT CORNER BRACKETaRIGHT CORNER BRACKET
aLEFT WHITE CORNER BRACKETaRIGHT WHITE CORNER BRACKETaLEFT BLACK LENTICULAR BRACKET
aRIGHT BLACK LENTICULAR BRACKETaPOSTAL MARKaGETA MARKaLEFT TORTOISE SHELL BRACKET
aRIGHT TORTOISE SHELL BRACKETaLEFT WHITE LENTICULAR BRACKETaRIGHT WHITE LENTICULAR BRACKET
aLEFT WHITE TORTOISE SHELL BRACKETaRIGHT WHITE TORTOISE SHELL BRACKETaLEFT WHITE SQUARE BRACKET
aRIGHT WHITE SQUARE BRACKETaWAVE DASHaREVERSED DOUBLE PRIME QUOTATION MARK
aDOUBLE PRIME QUOTATION MARKaLOW DOUBLE PRIME QUOTATION MARKaPOSTAL MARK FACEaHANGZHOU NUMERAL ONE
cTWOcTHREEcFOURcFIVEcSIXcSEVENcEIGHTcNINEaIDEOGRAPHIC LEVEL TONE MARKbRISING TONE MARK
bDEPARTING TONE MARKbENTERING TONE MARKaHANGUL SINGLE DOT TONE MARKbDOUBLE DOT TONE MARKaWAVY DASH
aVERTICAL KANA REPEAT MARKdWITH VOICED SOUND MARKdMARK UPPER HALF
dWITH VOICED SOUND MARK UPPER HALFdMARK LOWER HALFaCIRCLED POSTAL MARK
aIDEOGRAPHIC TELEGRAPH LINE FEED SEPARATOR SYMBOLaHANGZHOU NUMERAL TENcTWENTYcTHIRTY
aVERTICAL IDEOGRAPHIC ITERATION MARKaMASU MARKaPART ALTERNATION MARK
aIDEOGRAPHIC VARIATION INDICATORbHALF FILL SPACE@3041aHIRAGANA LETTER SMALL AcAcSMALL IcIcSMALL U
cUcSMALL EcEcSMALL OcOcKAcGAcKIcGIcKUcGUcKEcGEcKOcGOcSAcZAcSIcZIcSUcZUcSEcZEcSOcZOcTAcDAcTIcDI
cSMALL TUcTUcDUcTEcDEcTOcDOcNAcNIcNUcNEcNOcHAcBAcPAcHIcBIcPIcHUcBUcPUcHEcBEcPEcHOcBOcPOcMAcMIcMU
cMEcMOcSMALL YAcYAcSMALL YUcYUcSMALL YOcYOcRAcRIcRUcREcROcSMALL WAcWAcWIcWEcWOcNcVUcSMALL KAdKE
@3099aCOMBINING KATAKANA-HIRAGANA VOICED SOUND MARKcSEMI-VOICED SOUND MARK
aKATAKANA-HIRAGANA VOICED SOUND MARKbSEMI-VOICED SOUND MARKaHIRAGANA ITERATION MARK
bVOICED ITERATION MARKbDIGRAPH YORIaKATAKANA-HIRAGANA DOUBLE HYPHENaKATAKANA LETTER SMALL AcA
cSMALL IcIcSMALL UcUcSMALL EcEcSMALL OcOcKAcGAcKIcGIcKUcGUcKEcGEcKOcGOcSAcZAcSIcZIcSUcZUcSEcZEcSO
cZOcTAcDAcTIcDIcSMALL TUcTUcDUcTEcDEcTOcDOcNAcNIcNUcNEcNOcHAcBAcPAcHIcBIcPIcHUcBUcPUcHEcBEcPEcHO
cBOcPOcMAcMIcMUcMEcMOcSMALL YAcYAcSMALL YUcYUcSMALL YOcYOcRAcRIcRUcREcROcSMALL WAcWAcWIcWEcWOcNcVU
cSMALL KAdKEcVAcVIcVEcVObMIDDLE DOTaKATAKANA-HIRAGANA PROLONGED SOUND MARKaKATAKANA ITERATION MARK
bVOICED ITERATION MARKbDIGRAPH KOTO@3105aBOPOMOFO LETTER BcPcMcFcDcTcNcLcGcKcHcJcQcXcZHcCHcSHcRcZ
cCcScAcOcEcEHcAIcEIcAUcOUcANcENcANGcENGcERcIcUcIUcVcNGcGNcIHcO WITH DOT ABOVEcNN
@3131aHANGUL LETTER KIYEOKcSSANGKIYEOKcKIYEOK-SIOScNIEUNcNIEUN-CIEUCcNIEUN-HIEUHcTIKEUT
cSSANGTIKEUTcRIEULcRIEUL-KIYEOKcRIEUL-MIEUMcRIEUL-PIEUPcRIEUL-SIOScRIEUL-THIEUTHcRIEUL-PHIEUPH
cRIEUL-HIEUHcMIEUMcPIEUPcSSANGPIEUPcPIEUP-SIOScSIOScSSANGSIOScIEUNGcCIEUCcSSANGCIEUCcCHIEUCH
cKHIEUKHcTHIEUTHcPHIEUPHcHIEUHcAcAEcYAcYAEcEOcEcYEOcYEcOcWAcWAEcOEcYOcUcWEOcWEcWIcYUcEUcYIcI
bFILLERbLETTER SSANGNIEUNcNIEUN-TIKEUTcNIEUN-SIOScNIEUN-PANSIOScRIEUL-KIYEOK-SIOScRIEUL-TIKEUT
cRIEUL-PIEUP-SIOScRIEUL-PANSIOScRIEUL-YEORINHIEUHcMIEUM-PIEUPcMIEUM-SIOScMIEUM-PANSIOS
cKAPYEOUNMIEUMcPIEUP-KIYEOKcPIEUP-TIKEUTcPIEUP-SIOS-KIYEOKcPIEUP-SIOS-TIKEUTcPIEUP-CIEUC
cPIEUP-THIEUTHcKAPYEOUNPIEUPcKAPYEOUNSSANGPIEUPcSIOS-KIYEOKcSIOS-NIEUNcSIOS-TIKEUTcSIOS-PIEUP
cSIOS-CIEUCcPANSIOScSSANGIEUNGcYESIEUNGcYESIEUNG-SIOScYESIEUNG-PANSIOScKAPYEOUNPHIEUPHcSSANGHIEUH
cYEORINHIEUHcYO-YAcYO-YAEcYO-IcYU-YEOcYU-YEcYU-IcARAEAcARAEAE
@3190aIDEOGRAPHIC ANNOTATION LINKING MARKcREVERSE MARKcONE MARKcTWO MARKcTHREE MARKcFOUR MARK
cTOP MARKcMIDDLE MARKcBOTTOM MARKcFIRST MARKcSECOND MARKcTHIRD MARKcFOURTH MARKcHEAVEN MARK
cEARTH MARKcMAN MARKaBOPOMOFO LETTER BUcZIcJIcGUcEEcENNcOOcONNcIRcANNcINNcUNNcIMcNGGcAINNcAUNNcAM
cOMcONGcINNNbFINAL LETTER PdTdKdHbLETTER GHcLHcZYbFINAL LETTER GbLETTER GWcKWcOEcAHaCJK STROKE T
cWGcXGcBXGcSWcHZZcHZGcHPcHZWGcSZWGcHZTcHZZPcHPWGcHZWcHZZZcNcHcScPcSPcDcHZcHGcSZcSWZcSTcSGcPDcPZcTN
cSZZcSWGcHXWGcHZZZGcPGcQ@31F0aKATAKANA LETTER SMALL KUdSIdSUdTOdNUdHAdHIdHUdHEdHOdMUdRAdRIdRUdRE
dROaPARENTHESIZED HANGUL KIYEOKcNIEUNcTIKEUTcRIEULcMIEUMcPIEUPcSIOScIEUNGcCIEUCcCHIEUCHcKHIEUKH
cTHIEUTHcPHIEUPHcHIEUHcKIYEOK AcNIEUN AcTIKEUT AcRIEUL AcMIEUM AcPIEUP AcSIOS AcIEUNG AcCIEUC A
cCHIEUCH AcKHIEUKH AcTHIEUTH AcPHIEUPH AcHIEUH AcCIEUC UbKOREAN CHARACTER OJEONdO HU
@3220bIDEOGRAPH ONEcTWOcTHREEcFOURcFIVEcSIXcSEVENcEIGHTcNINEcTENcMOONcFIREcWATERcWOODcMETALcEARTH
cSUNcSTOCKcHAVEcSOCIETYcNAMEcSPECIALcFINANCIALcCONGRATULATIONcLABORcREPRESENTcCALLcSTUDYcSUPERVISE
cENTERPRISEcRESOURCEcALLIANCEcFESTIVALcRESTcSELFcREACHaCIRCLED IDEOGRAPH QUESTIONcKINDERGARTEN
cSCHOOLcKOTObNUMBER TEN ON BLACK SQUAREcTWENTY ON BLACK SQUAREcTHIRTY ON BLACK SQUARE
cFORTY ON BLACK SQUAREcFIFTY ON BLACK SQUAREcSIXTY ON BLACK SQUAREcSEVENTY ON BLACK SQUARE
cEIGHTY ON BLACK SQUAREaPARTNERSHIP SIGNaCIRCLED NUMBER TWENTY ONEdTWOdTHREEdFOURdFIVEdSIXdSEVEN
dEIGHTdNINEcTHIRTYdONEdTWOdTHREEdFOURdFIVEbHANGUL KIYEOKcNIEUNcTIKEUTcRIEULcMIEUMcPIEUPcSIOScIEUNG
cCIEUCcCHIEUCHcKHIEUKHcTHIEUTHcPHIEUPHcHIEUHcKIYEOK AcNIEUN AcTIKEUT AcRIEUL AcMIEUM AcPIEUP A
cSIOS AcIEUNG AcCIEUC AcCHIEUCH AcKHIEUKH AcTHIEUTH AcPHIEUPH AcHIEUH AbKOREAN CHARACTER CHAMKO
dJUEUIbHANGUL IEUNG UaKOREAN STANDARD SYMBOLaCIRCLED IDEOGRAPH ONEcTWOcTHREEcFOURcFIVEcSIXcSEVEN
cEIGHTcNINEcTENcMOONcFIREcWATERcWOODcMETALcEARTHcSUNcSTOCKcHAVEcSOCIETYcNAMEcSPECIALcFINANCIAL
cCONGRATULATIONcLABORcSECRETcMALEcFEMALEcSUITABLEcEXCELLENTcPRINTcATTENTIONcITEMcRESTcCOPYcCORRECT
cHIGHcCENTREcLOWcLEFTcRIGHTcMEDICINEcRELIGIONcSTUDYcSUPERVISEcENTERPRISEcRESOURCEcALLIANCEcNIGHT
bNUMBER THIRTY SIXdSEVENdEIGHTdNINEcFORTYdONEdTWOdTHREEdFOURdFIVEdSIXdSEVENdEIGHTdNINEcFIFTY
aIDEOGRAPHIC TELEGRAPH SYMBOL FOR JANUARYeFEBRUARYeMARCHeAPRILeMAYeJUNEeJULYeAUGUSTeSEPTEMBER
eOCTOBEReNOVEMBEReDECEMBERaSQUARE HGbERGbEVaLIMITED LIABILITY SIGNaCIRCLED KATAKANA AcIcUcEcOcKA
cKIcKUcKEcKOcSAcSIcSUcSEcSOcTAcTIcTUcTEcTOcNAcNIcNUcNEcNOcHAcHIcHUcHEcHOcMAcMIcMUcMEcMOcYAcYUcYO
cRAcRIcRUcREcROcWAcWIcWEcWOaSQUARE ERA NAME REIWAbAPAATObARUHUAbANPEAbAARUbININGUbINTIbUON
bESUKUUDObEEKAAbONSUbOOMUbKAIRIbKARATTObKARORIIbGARONbGANMAbGIGAbGINIIbKYURIIbGIRUDAAbKIRO
bKIROGURAMUbKIROMEETORUbKIROWATTObGURAMUbGURAMUTONbKURUZEIRObKUROONEbKEESUbKORUNAbKOOPObSAIKURU
bSANTIIMUbSIRINGUbSENTIbSENTObDAASUbDESIbDORUbTONbNANObNOTTObHAITUbPAASENTObPAATUbBAARERU
bPIASUTORUbPIKURUbPIKObBIRUbHUARADDObHUIITObBUSSYERUbHURANbHEKUTAARUbPESObPENIHIbHERUTUbPENSU
bPEEZIbBEETAbPOINTObBORUTObHONbPONDObHOORUbHOONbMAIKURObMAIRUbMAHHAbMARUKUbMANSYONbMIKURONbMIRI
bMIRIBAARUbMEGAbMEGATONbMEETORUbYAADObYAARUbYUANbRITTORUbRIRAbRUPIIbRUUBURUbREMUbRENTOGENbWATTO
aIDEOGRAPHIC TELEGRAPH SYMBOL FOR HOUR ZEROfONEfTWOfTHREEfFOURfFIVEfSIXfSEVENfEIGHTfNINEfTEN
fELEVENfTWELVEfTHIRTEENfFOURTEENfFIFTEENfSIXTEENfSEVENTEENfEIGHTEENfNINETEENfTWENTYfTWENTY-ONE
fTWENTY-TWOfTWENTY-THREEfTWENTY-FOURaSQUARE HPAbDAbAUbBARbOVbPCbDMcSQUAREDcCUBEDbIU
bERA NAME HEISEIdSYOUWAdTAISYOUdMEIZIbCORPORATIONbPA AMPSbNAbMU AbMAbKAbKBbMBbGBbCALbKCALbPFbNF
bMU FcGbMGbKGbHZbKHZbMHZbGHZbTHZbMU LbMLbDLbKLbFMbNMbMU MbMMbCMbKMbMM SQUAREDbCM SQUAREDbM SQUARED
bKM SQUAREDbMM CUBEDbCM CUBEDbM CUBEDbKM CUBEDbM OVER SeSQUAREDbPAbKPAbMPAbGPAbRADcOVER SeSQUARED
bPSbNSbMU SbMSbPVbNVbMU VbMVbKVbMV MEGAbPWbNWbMU WbMWbKWbMW MEGAbK OHMbM OHMbAMbBQbCCbCDbC OVER KG
bCObDBbGYbHAbHPbINbKKbKM CAPITALbKTbLMbLNbLOGbLXbMB SMALLbMILbMOLbPHbPMbPPMbPRbSRbSVbWBbV OVER M
bA OVER MaIDEOGRAPHIC TELEGRAPH SYMBOL FOR DAY ONEfTWOfTHREEfFOURfFIVEfSIXfSEVENfEIGHTfNINEfTEN
fELEVENfTWELVEfTHIRTEENfFOURTEENfFIFTEENfSIXTEENfSEVENTEENfEIGHTEENfNINETEENfTWENTYfTWENTY-ONE
fTWENTY-TWOfTWENTY-THREEfTWENTY-FOURfTWENTY-FIVEfTWENTY-SIXfTWENTY-SEVENfTWENTY-EIGHTfTWENTY-NINE
fTHIRTYfTHIRTY-ONEaSQUARE GAL@4DC0aHEXAGRAM FOR THE CREATIVE HEAVENdRECEPTIVE EARTH
cDIFFICULTY AT THE BEGINNINGcYOUTHFUL FOLLYcWAITINGcCONFLICTcTHE ARMYcHOLDING TOGETHER
cSMALL TAMINGcTREADINGcPEACEcSTANDSTILLcFELLOWSHIPcGREAT POSSESSIONcMODESTYcENTHUSIASMcFOLLOWING
cWORK ON THE DECAYEDcAPPROACHcCONTEMPLATIONcBITING THROUGHcGRACEcSPLITTING APARTcRETURNcINNOCENCE
cGREAT TAMINGcMOUTH CORNERScGREAT PREPONDERANCEcTHE ABYSMAL WATERdCLINGING FIREcINFLUENCEcDURATION
cRETREATcGREAT POWERcPROGRESScDARKENING OF THE LIGHTcTHE FAMILYcOPPOSITIONcOBSTRUCTIONcDELIVERANCE
cDECREASEcINCREASEcBREAKTHROUGHcCOMING TO MEETcGATHERING TOGETHERcPUSHING UPWARDcOPPRESSION
cTHE WELLcREVOLUTIONcTHE CAULDRONdAROUSING THUNDERdKEEPING STILL MOUNTAINcDEVELOPMENT
cTHE MARRYING MAIDENcABUNDANCEcTHE WANDERERdGENTLE WINDdJOYOUS LAKEcDISPERSIONcLIMITATION
cINNER TRUTHcSMALL PREPONDERANCEcAFTER COMPLETIONcBEFORE COMPLETION@A000aYI SYLLABLE ITcIXcIcIP
cIETcIEXcIEcIEPcATcAXcAcAPcUOXcUOcUOPcOTcOXcOcOPcEXcEcWUcBITcBIXcBIcBIPcBIETcBIEXcBIEcBIEPcBATcBAX
cBAcBAPcBUOXcBUOcBUOPcBOTcBOXcBOcBOPcBEXcBEcBEPcBUTcBUXcBUcBUPcBURXcBURcBYTcBYXcBYcBYPcBYRXcBYR
cPITcPIXcPIcPIPcPIEXcPIEcPIEPcPATcPAXcPAcPAPcPUOXcPUOcPUOPcPOTcPOXcPOcPOPcPUTcPUXcPUcPUPcPURXcPUR
cPYTcPYXcPYcPYPcPYRXcPYRcBBITcBBIXcBBIcBBIPcBBIETcBBIEXcBBIEcBBIEPcBBATcBBAXcBBAcBBAPcBBUOXcBBUO
cBBUOPcBBOTcBBOXcBBOcBBOPcBBEXcBBEcBBEPcBBUTcBBUXcBBUcBBUPcBBURXcBBURcBBYTcBBYXcBBYcBBYPcNBITcNBIX
cNBIcNBIPcNBIEXcNBIEcNBIEPcNBATcNBAXcNBAcNBAPcNBOTcNBOXcNBOcNBOPcNBUTcNBUXcNBUcNBUPcNBURXcNBUR
cNBYTcNBYXcNBYcNBYPcNBYRXcNBYRcHMITcHMIXcHMIcHMIPcHMIEXcHMIEcHMIEPcHMATcHMAXcHMAcHMAPcHMUOXcHMUO
cHMUOPcHMOTcHMOXcHMOcHMOPcHMUTcHMUXcHMUcHMUPcHMURXcHMURcHMYXcHMYcHMYPcHMYRXcHMYRcMITcMIXcMIcMIP
cMIEXcMIEcMIEPcMATcMAXcMAcMAPcMUOTcMUOXcMUOcMUOPcMOTcMOXcMOcMOPcMEXcMEcMUTcMUXcMUcMUPcMURXcMURcMYT
cMYXcMYcMYPcFITcFIXcFIcFIPcFATcFAXcFAcFAPcFOXcFOcFOPcFUTcFUXcFUcFUPcFURXcFURcFYTcFYXcFYcFYPcVIT
cVIXcVIcVIPcVIETcVIEXcVIEcVIEPcVATcVAXcVAcVAPcVOTcVOXcVOcVOPcVEXcVEPcVUTcVUXcVUcVUPcVURXcVURcVYT
cVYXcVYcVYPcVYRXcVYRcDITcDIXcDIcDIPcDIEXcDIEcDIEPcDATcDAXcDAcDAPcDUOXcDUOcDOTcDOXcDOcDOPcDEXcDE
cDEPcDUTcDUXcDUcDUPcDURXcDURcTITcTIXcTIcTIPcTIEXcTIEcTIEPcTATcTAXcTAcTAPcTUOTcTUOXcTUOcTUOPcTOT
cTOXcTOcTOPcTEXcTEcTEPcTUTcTUXcTUcTUPcTURXcTURcDDITcDDIXcDDIcDDIPcDDIEXcDDIEcDDIEPcDDATcDDAXcDDA
cDDAPcDDUOXcDDUOcDDUOPcDDOTcDDOXcDDOcDDOPcDDEXcDDEcDDEPcDDUTcDDUXcDDUcDDUPcDDURXcDDURcNDITcNDIX
cNDIcNDIPcNDIEXcNDIEcNDATcNDAXcNDAcNDAPcNDOTcNDOXcNDOcNDOPcNDEXcNDEcNDEPcNDUTcNDUXcNDUcNDUPcNDURX
cNDURcHNITcHNIXcHNIcHNIPcHNIETcHNIEXcHNIEcHNIEPcHNATcHNAXcHNAcHNAPcHNUOXcHNUOcHNOTcHNOXcHNOPcHNEX
cHNEcHNEPcHNUTcNITcNIXcNIcNIPcNIEXcNIEcNIEPcNAXcNAcNAPcNUOXcNUOcNUOPcNOTcNOXcNOcNOPcNEXcNEcNEPcNUT
cNUXcNUcNUPcNURXcNURcHLITcHLIXcHLIcHLIPcHLIEXcHLIEcHLIEPcHLATcHLAXcHLAcHLAPcHLUOXcHLUOcHLUOPcHLOX
cHLOcHLOPcHLEXcHLEcHLEPcHLUTcHLUXcHLUcHLUPcHLURXcHLURcHLYTcHLYXcHLYcHLYPcHLYRXcHLYRcLITcLIXcLIcLIP
cLIETcLIEXcLIEcLIEPcLATcLAXcLAcLAPcLUOTcLUOXcLUOcLUOPcLOTcLOXcLOcLOPcLEXcLEcLEPcLUTcLUXcLUcLUP
cLURXcLURcLYTcLYXcLYcLYPcLYRXcLYRcGITcGIXcGIcGIPcGIETcGIEXcGIEcGIEPcGATcGAXcGAcGAPcGUOTcGUOXcGUO
cGUOPcGOTcGOXcGOcGOPcGETcGEXcGEcGEPcGUTcGUXcGUcGUPcGURXcGURcKITcKIXcKIcKIPcKIEXcKIEcKIEPcKATcKAX
cKAcKAPcKUOXcKUOcKUOPcKOTcKOXcKOcKOPcKETcKEXcKEcKEPcKUTcKUXcKUcKUPcKURXcKURcGGITcGGIXcGGIcGGIEX
cGGIEcGGIEPcGGATcGGAXcGGAcGGAPcGGUOTcGGUOXcGGUOcGGUOPcGGOTcGGOXcGGOcGGOPcGGETcGGEXcGGEcGGEPcGGUT
cGGUXcGGUcGGUPcGGURXcGGURcMGIEXcMGIEcMGATcMGAXcMGAcMGAPcMGUOXcMGUOcMGUOPcMGOTcMGOXcMGOcMGOPcMGEX
cMGEcMGEPcMGUTcMGUXcMGUcMGUPcMGURXcMGURcHXITcHXIXcHXIcHXIPcHXIETcHXIEXcHXIEcHXIEPcHXATcHXAXcHXA
cHXAPcHXUOTcHXUOXcHXUOcHXUOPcHXOTcHXOXcHXOcHXOPcHXEXcHXEcHXEPcNGIEXcNGIEcNGIEPcNGATcNGAXcNGAcNGAP
cNGUOTcNGUOXcNGUOcNGOTcNGOXcNGOcNGOPcNGEXcNGEcNGEPcHITcHIEXcHIEcHATcHAXcHAcHAPcHUOTcHUOXcHUOcHUOP
cHOTcHOXcHOcHOPcHEXcHEcHEPcWATcWAXcWAcWAPcWUOXcWUOcWUOPcWOXcWOcWOPcWEXcWEcWEPcZITcZIXcZIcZIPcZIEX
cZIEcZIEPcZATcZAXcZAcZAPcZUOXcZUOcZUOPcZOTcZOXcZOcZOPcZEXcZEcZEPcZUTcZUXcZUcZUPcZURXcZURcZYTcZYX
cZYcZYPcZYRXcZYRcCITcCIXcCIcCIPcCIETcCIEXcCIEcCIEPcCATcCAXcCAcCAPcCUOXcCUOcCUOPcCOTcCOXcCOcCOPcCEX
cCEcCEPcCUTcCUXcCUcCUPcCURXcCURcCYTcCYXcCYcCYPcCYRXcCYRcZZITcZZIXcZZIcZZIPcZZIETcZZIEXcZZIEcZZIEP
cZZATcZZAXcZZAcZZAPcZZOXcZZOcZZOPcZZEXcZZEcZZEPcZZUXcZZUcZZUPcZZURXcZZURcZZYTcZZYXcZZYcZZYPcZZYRX
cZZYRcNZITcNZIXcNZIcNZIPcNZIEXcNZIEcNZIEPcNZATcNZAXcNZAcNZAPcNZUOXcNZUOcNZOXcNZOPcNZEXcNZEcNZUX
cNZUcNZUPcNZURXcNZURcNZYTcNZYXcNZYcNZYPcNZYRXcNZYRcSITcSIXcSIcSIPcSIEXcSIEcSIEPcSATcSAXcSAcSAP
cSUOXcSUOcSUOPcSOTcSOXcSOcSOPcSEXcSEcSEPcSUTcSUXcSUcSUPcSURXcSURcSYTcSYXcSYcSYPcSYRXcSYRcSSITcSSIX
cSSIcSSIPcSSIEXcSSIEcSSIEPcSSATcSSAXcSSAcSSAPcSSOTcSSOXcSSOcSSOPcSSEXcSSEcSSEPcSSUTcSSUXcSSUcSSUP
cSSYTcSSYXcSSYcSSYPcSSYRXcSSYRcZHATcZHAXcZHAcZHAPcZHUOXcZHUOcZHUOPcZHOTcZHOXcZHOcZHOPcZHETcZHEX
cZHEcZHEPcZHUTcZHUXcZHUcZHUPcZHURXcZHURcZHYTcZHYXcZHYcZHYPcZHYRXcZHYRcCHATcCHAXcCHAcCHAPcCHUOT
cCHUOXcCHUOcCHUOPcCHOTcCHOXcCHOcCHOPcCHETcCHEXcCHEcCHEPcCHUXcCHUcCHUPcCHURXcCHURcCHYTcCHYXcCHY
cCHYPcCHYRXcCHYRcRRAXcRRAcRRUOXcRRUOcRROTcRROXcRROcRROPcRRETcRREXcRREcRREPcRRUTcRRUXcRRUcRRUP
cRRURXcRRURcRRYTcRRYXcRRYcRRYPcRRYRXcRRYRcNRATcNRAXcNRAcNRAPcNROXcNROcNROPcNRETcNREXcNREcNREPcNRUT
cNRUXcNRUcNRUPcNRURXcNRURcNRYTcNRYXcNRYcNRYPcNRYRXcNRYRcSHATcSHAXcSHAcSHAPcSHUOXcSHUOcSHUOPcSHOT
cSHOXcSHOcSHOPcSHETcSHEXcSHEcSHEPcSHUTcSHUXcSHUcSHUPcSHURXcSHURcSHYTcSHYXcSHYcSHYPcSHYRXcSHYRcRAT
cRAXcRAcRAPcRUOXcRUOcRUOPcROTcROXcROcROPcREXcREcREPcRUTcRUXcRUcRUPcRURXcRURcRYTcRYXcRYcRYPcRYRX
cRYRcJITcJIXcJIcJIPcJIETcJIEXcJIEcJIEPcJUOTcJUOXcJUOcJUOPcJOTcJOXcJOcJOPcJUTcJUXcJUcJUPcJURXcJUR
cJYTcJYXcJYcJYPcJYRXcJYRcQITcQIXcQIcQIPcQIETcQIEXcQIEcQIEPcQUOTcQUOXcQUOcQUOPcQOTcQOXcQOcQOPcQUT
cQUXcQUcQUPcQURXcQURcQYTcQYXcQYcQYPcQYRXcQYRcJJITcJJIXcJJIcJJIPcJJIETcJJIEXcJJIEcJJIEPcJJUOXcJJUO
cJJUOPcJJOTcJJOXcJJOcJJOPcJJUTcJJUXcJJUcJJUPcJJURXcJJURcJJYTcJJYXcJJYcJJYPcNJITcNJIXcNJIcNJIP
cNJIETcNJIEXcNJIEcNJIEPcNJUOXcNJUOcNJOTcNJOXcNJOcNJOPcNJUXcNJUcNJUPcNJURXcNJURcNJYTcNJYXcNJYcNJYP
cNJYRXcNJYRcNYITcNYIXcNYIcNYIPcNYIETcNYIEXcNYIEcNYIEPcNYUOXcNYUOcNYUOPcNYOTcNYOXcNYOcNYOPcNYUT
cNYUXcNYUcNYUPcXITcXIXcXIcXIPcXIETcXIEXcXIEcXIEPcXUOXcXUOcXOTcXOXcXOcXOPcXYTcXYXcXYcXYPcXYRXcXYR
cYITcYIXcYIcYIPcYIETcYIEXcYIEcYIEPcYUOTcYUOXcYUOcYUOPcYOTcYOXcYOcYOPcYUTcYUXcYUcYUPcYURXcYURcYYT
cYYXcYYcYYPcYYRXcYYR@A490bRADICAL QOTcLIcKITcNYIPcCYPcSSIcGGOPcGEPcMIcHXITcLYRcBBUTcMOPcYOcPUT
cHXUOcTATcGAcZUPcCYTcDDURcBURcGGUOcNYOPcTUcOPcJJUTcZOTcPYTcHMOcYITcVURcSHYcVEPcZAcJOcNZUPcJJYcGOT
cJJIEcWOcDUcSHURcLIEcCYcCUOPcCIPcHXOPcSHATcZURcSHOPcCHEcZZIETcNBIEcKE@A4D0aLISU LETTER BAcPAcPHA
cDAcTAcTHAcGAcKAcKHAcJAcCAcCHAcDZAcTSAcTSHAcMAcNAcLAcSAcZHAcZAcNGAcHAcXAcHHAcFAcWAcSHAcYAcGHAcAcAE
cEcEUcIcOcUcUEcUHcOEcTONE MYA TIdNA POdMYA CYAeBOeNAeJEUbPUNCTUATION COMMAcFULL STOP
aVAI SYLLABLE EEcEENcHEEcWEEcWEENcPEEcBHEEcBEEcMBEEcKPEEcMGBEEcGBEEcFEEcVEEcTEEcTHEEcDHEEcDHHEE
cLEEcREEcDEEcNDEEcSEEcSHEEcZEEcZHEEcCEEcJEEcNJEEcYEEcKEEcNGGEEcGEEcMEEcNEEcNYEEcIcINcHIcHINcWIcWIN
cPIcBHIcBIcMBIcKPIcMGBIcGBIcFIcVIcTIcTHIcDHIcDHHIcLIcRIcDIcNDIcSIcSHIcZIcZHIcCIcJIcNJIcYIcKIcNGGI
cGIcMIcNIcNYIcAcANcNGANcHAcHANcWAcWANcPAcBHAcBAcMBAcKPAcKPANcMGBAcGBAcFAcVAcTAcTHAcDHAcDHHAcLAcRA
cDAcNDAcSAcSHAcZAcZHAcCAcJAcNJAcYAcKAcKANcNGGAcGAcMAcNAcNYAcOOcOONcHOOcWOOcWOONcPOOcBHOOcBOOcMBOO
cKPOOcMGBOOcGBOOcFOOcVOOcTOOcTHOOcDHOOcDHHOOcLOOcROOcDOOcNDOOcSOOcSHOOcZOOcZHOOcCOOcJOOcNJOOcYOO
cKOOcNGGOOcGOOcMOOcNOOcNYOOcUcUNcHUcHUNcWUcWUNcPUcBHUcBUcMBUcKPUcMGBUcGBUcFUcVUcTUcTHUcDHUcDHHUcLU
cRUcDUcNDUcSUcSHUcZUcZHUcCUcJUcNJUcYUcKUcNGGUcGUcMUcNUcNYUcOcONcNGONcHOcHONcWOcWONcPOcBHOcBOcMBO
cKPOcMGBOcGBOcGBONcFOcVOcTOcTHOcDHOcDHHOcLOcROcDOcNDOcSOcSHOcZOcZHOcCOcJOcNJOcYOcKOcNGGOcGOcMOcNO
cNYOcEcENcNGENcHEcHENcWEcWENcPEcBHEcBEcMBEcKPEcKPENcMGBEcGBEcGBENcFEcVEcTEcTHEcDHEcDHHEcLEcREcDE
cNDEcSEcSHEcZEcZHEcCEcJEcNJEcYEcKEcNGGEcNGGENcGEcGENcMEcNEcNYEcNGcLENGTHENERbCOMMAbFULL STOP
bQUESTION MARKbSYLLABLE NDOLE FAdKAdSOObSYMBOL FEENGcKEENGcTINGcNIIcBANGcFAAcTAAcDANGcDOONGcKUNG
cTONGcDO-OcJONGbDIGIT ZEROcONEcTWOcTHREEcFOURcFIVEcSIXcSEVENcEIGHTcNINEbSYLLABLE NDOLE MAdDO
@A640aCYRILLIC CAPITAL LETTER ZEMLYAbSMALL LETTER ZEMLYAbCAPITAL LETTER DZELObSMALL LETTER DZELO
bCAPITAL LETTER REVERSED DZEbSMALL LETTER REVERSED DZEbCAPITAL LETTER IOTAbSMALL LETTER IOTA
bCAPITAL LETTER DJERVbSMALL LETTER DJERVbCAPITAL LETTER MONOGRAPH UKbSMALL LETTER MONOGRAPH UK
bCAPITAL LETTER BROAD OMEGAbSMALL LETTER BROAD OMEGAbCAPITAL LETTER NEUTRAL YER
bSMALL LETTER NEUTRAL YERbCAPITAL LETTER YERU WITH BACK YERbSMALL LETTER YERU WITH BACK YER
bCAPITAL LETTER IOTIFIED YATbSMALL LETTER IOTIFIED YATbCAPITAL LETTER REVERSED YU
bSMALL LETTER REVERSED YUbCAPITAL LETTER IOTIFIED AbSMALL LETTER IOTIFIED A
bCAPITAL LETTER CLOSED LITTLE YUSbSMALL LETTER CLOSED LITTLE YUSbCAPITAL LETTER BLENDED YUS
bSMALL LETTER BLENDED YUSbCAPITAL LETTER IOTIFIED CLOSED LITTLE YUS
bSMALL LETTER IOTIFIED CLOSED LITTLE YUSbCAPITAL LETTER YNbSMALL LETTER YN
bCAPITAL LETTER REVERSED TSEbSMALL LETTER REVERSED TSEbCAPITAL LETTER SOFT DEbSMALL LETTER SOFT DE
bCAPITAL LETTER SOFT ELbSMALL LETTER SOFT ELbCAPITAL LETTER SOFT EMbSMALL LETTER SOFT EM
bCAPITAL LETTER MONOCULAR ObSMALL LETTER MONOCULAR ObCAPITAL LETTER BINOCULAR O
bSMALL LETTER BINOCULAR ObCAPITAL LETTER DOUBLE MONOCULAR ObSMALL LETTER DOUBLE MONOCULAR O
bLETTER MULTIOCULAR OaCOMBINING CYRILLIC VZMETcTEN MILLIONS SIGNcHUNDRED MILLIONS SIGN
cTHOUSAND MILLIONS SIGNaSLAVONIC ASTERISKaCOMBINING CYRILLIC LETTER UKRAINIAN IEdIdYIdUdHARD SIGN
dYERUdSOFT SIGNdOMEGAcKAVYKAcPAYEROKaCYRILLIC KAVYKAbPAYEROKbCAPITAL LETTER DWEbSMALL LETTER DWE
bCAPITAL LETTER DZWEbSMALL LETTER DZWEbCAPITAL LETTER ZHWEbSMALL LETTER ZHWEbCAPITAL LETTER CCHE
bSMALL LETTER CCHEbCAPITAL LETTER DZZEbSMALL LETTER DZZEbCAPITAL LETTER TE WITH MIDDLE HOOK
bSMALL LETTER TE WITH MIDDLE HOOKbCAPITAL LETTER TWEbSMALL LETTER TWEbCAPITAL LETTER TSWE
bSMALL LETTER TSWEbCAPITAL LETTER TSSEbSMALL LETTER TSSEbCAPITAL LETTER TCHEbSMALL LETTER TCHE
bCAPITAL LETTER HWEbSMALL LETTER HWEbCAPITAL LETTER SHWEbSMALL LETTER SHWEbCAPITAL LETTER DOUBLE O
bSMALL LETTER DOUBLE ObCAPITAL LETTER CROSSED ObSMALL LETTER CROSSED O
aMODIFIER LETTER CYRILLIC HARD SIGNdSOFT SIGNaCOMBINING CYRILLIC LETTER EFdIOTIFIED E
aBAMUM LETTER AcKAcUcKUcEEcREEcTAEcOcNYIcIcLAcPAcRIIcRIEEcLEEEEcMEEEEcTAAcNDAAcNJAEMcMcSUUcMUcSHII
cSIcSHEUXcSEUXcKYEEcKETcNUAEcNUcNJUAEcYOQcSHUcYUQcYAcNSHAcKEUXcPEUXcNJEEcNTEEcPUEcWUEcPEEcFEEcRU
cLUcMIcNIcREUXcRAEcKENcNGKWAENcNGGAcNGAcSHOcPUAEcFUcFOMcWAcNAcLIcPIcLOQcKOcMBENcRENcMENcMAcTIcKI
cMOcMBAAcTETcKPAcTENcNTUUcSAMBAcFAAMAEcKOVUUcKOGHOMbCOMBINING MARK KOQNDONdTUKWENTISbNJAEMLI
bFULL STOPbCOLONbCOMMAbSEMICOLONbQUESTION MARK@A700aMODIFIER LETTER CHINESE TONE YIN PING
eYANG PINGeYIN SHANGeYANG SHANGeYIN QUeYANG QUeYIN RUeYANG RUcEXTRA-HIGH DOTTED TONE BAR
cHIGH DOTTED TONE BARcMID DOTTED TONE BARcLOW DOTTED TONE BARcEXTRA-LOW DOTTED TONE BAR
cEXTRA-HIGH DOTTED LEFT-STEM TONE BARcHIGH DOTTED LEFT-STEM TONE BARcMID DOTTED LEFT-STEM TONE BAR
cLOW DOTTED LEFT-STEM TONE BARcEXTRA-LOW DOTTED LEFT-STEM TONE BARcEXTRA-HIGH LEFT-STEM TONE BAR
cHIGH LEFT-STEM TONE BARcMID LEFT-STEM TONE BARcLOW LEFT-STEM TONE BAR
cEXTRA-LOW LEFT-STEM TONE BARcDOT VERTICAL BARdSLASHdHORIZONTAL BARcLOWER RIGHT CORNER ANGLE
cRAISED UP ARROWdDOWN ARROWdEXCLAMATION MARKdINVERTED EXCLAMATION MARK
cLOW INVERTED EXCLAMATION MARKcSTRESS AND HIGH TONEeLOW TONE
aLATIN CAPITAL LETTER EGYPTOLOGICAL ALEFbSMALL LETTER EGYPTOLOGICAL ALEF
bCAPITAL LETTER EGYPTOLOGICAL AINbSMALL LETTER EGYPTOLOGICAL AINbCAPITAL LETTER HENG
bSMALL LETTER HENGbCAPITAL LETTER TZbSMALL LETTER TZbCAPITAL LETTER TRESILLObSMALL LETTER TRESILLO
bCAPITAL LETTER CUATRILLObSMALL LETTER CUATRILLObCAPITAL LETTER CUATRILLO WITH COMMA
bSMALL LETTER CUATRILLO WITH COMMAbLETTER SMALL CAPITAL FeSbCAPITAL LETTER AAbSMALL LETTER AA
bCAPITAL LETTER AObSMALL LETTER AObCAPITAL LETTER AUbSMALL LETTER AUbCAPITAL LETTER AV
bSMALL LETTER AVbCAPITAL LETTER AV WITH HORIZONTAL BARbSMALL LETTER AV WITH HORIZONTAL BAR
bCAPITAL LETTER AYbSMALL LETTER AYbCAPITAL LETTER REVERSED C WITH DOT
bSMALL LETTER REVERSED C WITH DOTbCAPITAL LETTER K WITH STROKEbSMALL LETTER K WITH STROKE
bCAPITAL LETTER K WITH DIAGONAL STROKEbSMALL LETTER K WITH DIAGONAL STROKE
bCAPITAL LETTER K WITH STROKE AND DIAGONAL STROKEbSMALL LETTER K WITH STROKE AND DIAGONAL STROKE
bCAPITAL LETTER BROKEN LbSMALL LETTER BROKEN LbCAPITAL LETTER L WITH HIGH STROKE
bSMALL LETTER L WITH HIGH STROKEbCAPITAL LETTER O WITH LONG STROKE OVERLAY
bSMALL LETTER O WITH LONG STROKE OVERLAYbCAPITAL LETTER O WITH LOOPbSMALL LETTER O WITH LOOP
bCAPITAL LETTER OObSMALL LETTER OObCAPITAL LETTER P WITH STROKE THROUGH DESCENDER
bSMALL LETTER P WITH STROKE THROUGH DESCENDERbCAPITAL LETTER P WITH FLOURISH
bSMALL LETTER P WITH FLOURISHbCAPITAL LETTER P WITH SQUIRREL TAIL
bSMALL LETTER P WITH SQUIRREL TAILbCAPITAL LETTER Q WITH STROKE THROUGH DESCENDER
bSMALL LETTER Q WITH STROKE THROUGH DESCENDERbCAPITAL LETTER Q WITH DIAGONAL STROKE
bSMALL LETTER Q WITH DIAGONAL STROKEbCAPITAL LETTER R ROTUNDAbSMALL LETTER R ROTUNDA
bCAPITAL LETTER RUM ROTUNDAbSMALL LETTER RUM ROTUNDAbCAPITAL LETTER V WITH DIAGONAL STROKE
bSMALL LETTER V WITH DIAGONAL STROKEbCAPITAL LETTER VYbSMALL LETTER VYbCAPITAL LETTER VISIGOTHIC Z
bSMALL LETTER VISIGOTHIC ZbCAPITAL LETTER THORN WITH STROKEbSMALL LETTER THORN WITH STROKE
bCAPITAL LETTER THORN WITH STROKE THROUGH DESCENDER
bSMALL LETTER THORN WITH STROKE THROUGH DESCENDERbCAPITAL LETTER VENDbSMALL LETTER VEND
bCAPITAL LETTER ETbSMALL LETTER ETbCAPITAL LETTER ISbSMALL LETTER ISbCAPITAL LETTER CON
bSMALL LETTER CONaMODIFIER LETTER USaLATIN SMALL LETTER DUMdLUMdMUMdNUMdRUM
bLETTER SMALL CAPITAL RUMbSMALL LETTER TUMdUMbCAPITAL LETTER INSULAR DbSMALL LETTER INSULAR D
bCAPITAL LETTER INSULAR FbSMALL LETTER INSULAR FbCAPITAL LETTER INSULAR GdTURNED INSULAR G
bSMALL LETTER TURNED INSULAR GbCAPITAL LETTER TURNED LbSMALL LETTER TURNED L
bCAPITAL LETTER INSULAR RbSMALL LETTER INSULAR RbCAPITAL LETTER INSULAR SbSMALL LETTER INSULAR S
bCAPITAL LETTER INSULAR TbSMALL LETTER INSULAR TaMODIFIER LETTER LOW CIRCUMFLEX ACCENTcCOLON
cSHORT EQUALS SIGNaLATIN CAPITAL LETTER SALTILLObSMALL LETTER SALTILLObCAPITAL LETTER TURNED H
bSMALL LETTER L WITH RETROFLEX HOOK AND BELTbLETTER SINOLOGICAL DOT
bCAPITAL LETTER N WITH DESCENDERbSMALL LETTER N WITH DESCENDERbCAPITAL LETTER C WITH BAR
bSMALL LETTER C WITH BARfPALATAL HOOKdH WITH PALATAL HOOKbCAPITAL LETTER B WITH FLOURISH
bSMALL LETTER B WITH FLOURISHbCAPITAL LETTER F WITH STROKEbSMALL LETTER F WITH STROKE
bCAPITAL LETTER VOLAPUK AEbSMALL LETTER VOLAPUK AEbCAPITAL LETTER VOLAPUK OE
bSMALL LETTER VOLAPUK OEbCAPITAL LETTER VOLAPUK UEbSMALL LETTER VOLAPUK UE
bCAPITAL LETTER G WITH OBLIQUE STROKEbSMALL LETTER G WITH OBLIQUE STROKE
bCAPITAL LETTER K WITH OBLIQUE STROKEbSMALL LETTER K WITH OBLIQUE STROKE
bCAPITAL LETTER N WITH OBLIQUE STROKEbSMALL LETTER N WITH OBLIQUE STROKE
bCAPITAL LETTER R WITH OBLIQUE STROKEbSMALL LETTER R WITH OBLIQUE STROKE
bCAPITAL LETTER S WITH OBLIQUE STROKEbSMALL LETTER S WITH OBLIQUE STROKE
bCAPITAL LETTER H WITH HOOKdREVERSED OPEN EdSCRIPT GdL WITH BELTdSMALL CAPITAL I
bLETTER SMALL CAPITAL QbCAPITAL LETTER TURNED KeTdJ WITH CROSSED-TAILdCHIdBETAbSMALL LETTER BETA
bCAPITAL LETTER OMEGAbSMALL LETTER OMEGAbCAPITAL LETTER U WITH STROKEbSMALL LETTER U WITH STROKE
bCAPITAL LETTER GLOTTAL AbSMALL LETTER GLOTTAL AbCAPITAL LETTER GLOTTAL IbSMALL LETTER GLOTTAL I
bCAPITAL LETTER GLOTTAL UbSMALL LETTER GLOTTAL UbCAPITAL LETTER OLD POLISH O
bSMALL LETTER OLD POLISH ObCAPITAL LETTER ANGLICANA WbSMALL LETTER ANGLICANA W
bCAPITAL LETTER C WITH PALATAL HOOKdS WITH HOOKdZ WITH PALATAL HOOKdD WITH SHORT STROKE OVERLAY
bSMALL LETTER D WITH SHORT STROKE OVERLAYbCAPITAL LETTER S WITH SHORT STROKE OVERLAY
bSMALL LETTER S WITH SHORT STROKE OVERLAY@A7D0bCAPITAL LETTER CLOSED INSULAR G
bSMALL LETTER CLOSED INSULAR G@A7D3dDOUBLE THORN@A7D5eWYNNbCAPITAL LETTER MIDDLE SCOTS S
bSMALL LETTER MIDDLE SCOTS SbCAPITAL LETTER SIGMOID SbSMALL LETTER SIGMOID S
@A7F2aMODIFIER LETTER CAPITAL CdFdQaLATIN CAPITAL LETTER REVERSED HALF H
bSMALL LETTER REVERSED HALF HbEPIGRAPHIC LETTER SIDEWAYS IaMODIFIER LETTER CAPITAL H WITH STROKE
cSMALL LIGATURE OEaLATIN LETTER SMALL CAPITAL TURNED MbEPIGRAPHIC LETTER REVERSED FePdINVERTED M
dI LONGAdARCHAIC MaSYLOTI NAGRI LETTER AdIcSIGN DVISVARAcLETTER UdEdOcSIGN HASANTAcLETTER KOdKHO
dGOdGHOcSIGN ANUSVARAcLETTER COdCHOdJOdJHOdTTOdTTHOdDDOdDDHOdTOdTHOdDOdDHOdNOdPOdPHOdBOdBHOdMOdRO
dLOdRROdSOdHOcVOWEL SIGN AeIeUeEeOOcPOETRY MARK-1dMARK-2dMARK-3dMARK-4cSIGN ALTERNATE HASANTA
@A830aNORTH INDIC FRACTION ONE QUARTEReHALFdTHREE QUARTERSdONE SIXTEENTHeEIGHTHdTHREE SIXTEENTHS
cQUARTER MARKcPLACEHOLDER MARKcRUPEE MARKcQUANTITY MARK@A840aPHAGS-PA LETTER KAcKHAcGAcNGAcCAcCHA
cJAcNYAcTAcTHAcDAcNAcPAcPHAcBAcMAcTSAcTSHAcDZAcWAcZHAcZAcSMALL AcYAcRAcLAcSHAcSAcHAcAcIcUcEcOcQA
cXAcFAcGGAcEEbSUBJOINED LETTER WAdYAbLETTER TTAcTTHAcDDAcNNAcALTERNATE YAcVOICELESS SHAcVOICED HA
cASPIRATED FAbSUBJOINED LETTER RAbSUPERFIXED LETTER RAbLETTER CANDRABINDUbSINGLE HEAD MARK
bDOUBLE HEAD MARKbMARK SHADcDOUBLE SHAD@A880aSAURASHTRA SIGN ANUSVARAcVISARGAbLETTER AcAAcIcIIcU
cUUcVOCALIC RdRRdLdLLcEcEEcAIcOcOOcAUcKAcKHAcGAcGHAcNGAcCAcCHAcJAcJHAcNYAcTTAcTTHAcDDAcDDHAcNNAcTA
cTHAcDAcDHAcNAcPAcPHAcBAcBHAcMAcYAcRAcLAcVAcSHAcSSAcSAcHAcLLAbCONSONANT SIGN HAARUbVOWEL SIGN AAdI
dIIdUdUUdVOCALIC ReRReLeLLdEdEEdAIdOdOOdAUbSIGN VIRAMAcCANDRABINDU@A8CEbDANDAbDOUBLE DANDA
bDIGIT ZEROcONEcTWOcTHREEcFOURcFIVEcSIXcSEVENcEIGHTcNINE@A8E0aCOMBINING DEVANAGARI DIGIT ZEROdONE
dTWOdTHREEdFOURdFIVEdSIXdSEVENdEIGHTdNINEcLETTER AdUdKAdNAdPAdRAdVIcSIGN AVAGRAHA
aDEVANAGARI SIGN SPACING CANDRABINDUcCANDRABINDU VIRAMAcDOUBLE CANDRABINDU VIRAMAcCANDRABINDU TWO
dTHREEdAVAGRAHAcPUSHPIKAbGAP FILLERbCARETbHEADSTROKEbSIGN SIDDHAMbJAIN OMbLETTER AYbVOWEL SIGN AY
aKAYAH LI DIGIT ZEROdONEdTWOdTHREEdFOURdFIVEdSIXdSEVENdEIGHTdNINEcLETTER KAdKHAdGAdNGAdSAdSHAdZA
dNYAdTAdHTAdNAdPAdPHAdMAdDAdBAdRAdYAdLAdWAdTHAdHAdVAdCAdAdOEdIdOOcVOWEL UEdEdUdEEdOcTONE PLOPHU
dCALYAePLOPHUcSIGN CWIdSHYAaREJANG LETTER KAcGAcNGAcTAcDAcNAcPAcBAcMAcCAcJAcNYAcSAcRAcLAcYAcWAcHA
cMBAcNGGAcNDAcNYJAcAbVOWEL SIGN IdUdEdAIdOdAUdEUdEAbCONSONANT SIGN NGdNdRdHbVIRAMA
@A95FbSECTION MARKaHANGUL CHOSEONG TIKEUT-MIEUMcTIKEUT-PIEUPcTIKEUT-SIOScTIKEUT-CIEUCcRIEUL-KIYEOK
cRIEUL-SSANGKIYEOKcRIEUL-TIKEUTcRIEUL-SSANGTIKEUTcRIEUL-MIEUMcRIEUL-PIEUPcRIEUL-SSANGPIEUP
cRIEUL-KAPYEOUNPIEUPcRIEUL-SIOScRIEUL-CIEUCcRIEUL-KHIEUKHcMIEUM-KIYEOKcMIEUM-TIKEUTcMIEUM-SIOS
cPIEUP-SIOS-THIEUTHcPIEUP-KHIEUKHcPIEUP-HIEUHcSSANGSIOS-PIEUPcIEUNG-RIEULcIEUNG-HIEUH
cSSANGCIEUC-HIEUHcSSANGTHIEUTHcPHIEUPH-HIEUHcHIEUH-SIOScSSANGYEORINHIEUH
@A980aJAVANESE SIGN PANYANGGAcCECAKcLAYARcWIGNYANbLETTER AcI KAWIcIcIIcUcPA CEREKcNGA LELET
eRASWADIcEcAIcOcKAdSASAKdMURDAcGAdMURDAcNGAcCAdMURDAcJAcNYA MURDAcJA MAHAPRANAcNYAcTTAdMAHAPRANA
cDDAdMAHAPRANAcNA MURDAcTAdMURDAcDAdMAHAPRANAcNAcPAdMURDAcBAdMURDAcMAcYAcRAdAGUNGcLAcWAcSA MURDA
dMAHAPRANAcSAcHAbSIGN CECAK TELUbVOWEL SIGN TARUNGdTOLONGdWULUeMELIKdSUKUeMENDUTdTALINGdDIRGA MURE
dPEPETbCONSONANT SIGN KERETdPENGKALdCAKRAbPANGKONbLEFT RERENGGANbRIGHT RERENGGANbPADA ANDAPcMADYA
cLUHURcWINDUcPANGKATcLINGSAcLUNGSIcADEGdADEGcPISELEHbTURNED PADA PISELEH@A9CFbPANGRANGKEP
bDIGIT ZEROcONEcTWOcTHREEcFOURcFIVEcSIXcSEVENcEIGHTcNINE@A9DEbPADA TIRTA TUMETEScISEN-ISEN
aMYANMAR LETTER SHAN GHAdCHAdJHAdNNAdBHAbSIGN SHAN SAWbMODIFIER LETTER SHAN REDUPLICATION
bLETTER TAI LAING NYAeFAeGAeGHAeJAeJHAeDDAeDDHAeNNAbTAI LAING DIGIT ZEROeONEeTWOeTHREEeFOUReFIVE
eSIXeSEVENeEIGHTeNINEbLETTER TAI LAING LLAeDAeDHAeBAeBHA@AA00aCHAM LETTER AcIcUcEcAIcOcKAcKHAcGA
cGHAcNGUEcNGAcCHAcCHHAcJAcJHAcNHUEcNHAcNHJAcTAcTHAcDAcDHAcNUEcNAcDDAcPAcPPAcPHAcBAcBHAcMUEcMAcBBA
cYAcRAcLAcVAcSSAcSAcHAbVOWEL SIGN AAdIdIIdEIdUdOEdOdAIdAUdUEbCONSONANT SIGN YAdRAdLAdWA
@AA40bLETTER FINAL KdGdNGbCONSONANT SIGN FINAL NGbLETTER FINAL CHdTdNdPdYdRdLdSS
bCONSONANT SIGN FINAL MeH@AA50bDIGIT ZEROcONEcTWOcTHREEcFOURcFIVEcSIXcSEVENcEIGHTcNINE
@AA5CbPUNCTUATION SPIRALcDANDAcDOUBLE DANDAcTRIPLE DANDAaMYANMAR LETTER KHAMTI GAdCAdCHAdJAdJHA
dNYAdTTAdTTHAdDDAdDDHAdDHAdNAdSAdHAdHHAdFAbMODIFIER LETTER KHAMTI REDUPLICATIONbLETTER KHAMTI XA
dZAdRAbLOGOGRAM KHAMTI OAYdQNdHMbSYMBOL AITON EXCLAMATIONdONEdTWObLETTER AITON RA
bSIGN PAO KAREN TONEcTAI LAING TONE-2eTONE-5bLETTER SHWE PALAUNG CHAeSHAaTAI VIET LETTER LOW KO
dHIGH KOdLOW KHOdHIGH KHOdLOW KHHOdHIGH KHHOdLOW GOdHIGH GOdLOW NGOdHIGH NGOdLOW COdHIGH CO
dLOW CHOdHIGH CHOdLOW SOdHIGH SOdLOW NYOdHIGH NYOdLOW DOdHIGH DOdLOW TOdHIGH TOdLOW THOdHIGH THO
dLOW NOdHIGH NOdLOW BOdHIGH BOdLOW POdHIGH POdLOW PHOdHIGH PHOdLOW FOdHIGH FOdLOW MOdHIGH MO
dLOW YOdHIGH YOdLOW ROdHIGH ROdLOW LOdHIGH LOdLOW VOdHIGH VOdLOW HOdHIGH HOdLOW OdHIGH OcMAI KANG
cVOWEL AAdIdUEdUdEdOcMAI KHITcVOWEL IAdUEAdUAdAUEdAYdANdAMcTONE MAI EKeNUENGeTHOeSONG
@AADBcSYMBOL KONdNUENGdSAMdHO HOIdKOI KOIaMEETEI MAYEK LETTER EdOdCHAdNYAdTTAdTTHAdDDAdDDHAdNNA
dSHAdSSAcVOWEL SIGN IIeUUeAAIeAUeAAUcCHEIKHANcAHANG KHUDAMcANJIcSYLLABLE REPETITION MARK
cWORD REPETITION MARKcVOWEL SIGN VISARGAcVIRAMA@AB01aETHIOPIC SYLLABLE TTHUcTTHIcTTHAAcTTHEEcTTHE
cTTHO@AB09cDDHUcDDHIcDDHAAcDDHEEcDDHEcDDHO@AB11cDZUcDZIcDZAAcDZEEcDZEcDZO@AB20cCCHHAcCCHHUcCCHHI
cCCHHAAcCCHHEEcCCHHEcCCHHO@AB28cBBAcBBUcBBIcBBAAcBBEEcBBEcBBO@AB30aLATIN SMALL LETTER BARRED ALPHA
dA REVERSED-SCHWAdBLACKLETTER EdBARRED EdE WITH FLOURISHdLENIS FdSCRIPT G WITH CROSSED-TAIL
dL WITH INVERTED LAZY SfDOUBLE MIDDLE TILDEfMIDDLE RINGdM WITH CROSSED-TAILdN WITH CROSSED-TAIL
dENG WITH CROSSED-TAILdBLACKLETTER OfWITH STROKEdOPEN O WITH STROKEdINVERTED OE
dTURNED OE WITH STROKEgHORIZONTAL STROKEeO OPEN-OgWITH STROKEdSTIRRUP R
bLETTER SMALL CAPITAL R WITH RIGHT LEGbSMALL LETTER R WITHOUT HANDLEdDOUBLE RdR WITH CROSSED-TAIL
dDOUBLE R WITH CROSSED-TAILdSCRIPT RfWITH RINGdBASELINE ESHdU WITH SHORT RIGHT LEG
eBAR WITH SHORT RIGHT LEGdUIdTURNED UIdU WITH LEFT HOOKdCHIeWITH LOW RIGHT RINGgLEFT SERIF
dX WITH LOW RIGHT RINGfLONG LEFT LEGiAND LOW RIGHT RINGiWITH SERIFdY WITH SHORT RIGHT LEG
aMODIFIER BREVE WITH INVERTED BREVEbLETTER SMALL HENGdL WITH INVERTED LAZY SfMIDDLE TILDE
dU WITH LEFT HOOKaLATIN SMALL LETTER SAKHA YATdIOTIFIED EdOPEN OEdUOdINVERTED ALPHA
aGREEK LETTER SMALL CAPITAL OMEGAaLATIN SMALL LETTER DZ DIGRAPH WITH RETROFLEX HOOK
dTS DIGRAPH WITH RETROFLEX HOOKdTURNED R WITH MIDDLE TILDEaMODIFIER LETTER SMALL TURNED W
cLEFT TACKcRIGHT TACK@AB70aCHEROKEE SMALL LETTER AdEdIdOdUdVdGAdKAdGEdGIdGOdGUdGVdHAdHEdHIdHOdHU
dHVdLAdLEdLIdLOdLUdLVdMAdMEdMIdMOdMUdNAdHNAdNAHdNEdNIdNOdNUdNVdQUAdQUEdQUIdQUOdQUUdQUVdSAdSdSEdSI
dSOdSUdSVdDAdTAdDEdTEdDIdTIdDOdDUdDVdDLAdTLAdTLEdTLIdTLOdTLUdTLVdTSAdTSEdTSIdTSOdTSUdTSVdWAdWEdWI
dWOdWUdWVdYAaMEETEI MAYEK LETTER KOKdSAMdLAIdMITdPAdNAdCHILdTILdKHOUdNGOUdTHOUdWAIdYANGdHUKdUNdI
dPHAMdATIYAdGOKdJHAMdRAIdBAdJILdDILdGHOUdDHOUdBHAMdKOK LONSUMdLAI LONSUMdMIT LONSUMdPA LONSUM
dNA LONSUMdTIL LONSUMdNGOU LONSUMdI LONSUMcVOWEL SIGN ONAPeINAPeANAPeYENAPeSOUNAPeUNAPeCHEINAP
eNUNGcCHEIKHEIcLUM IYEKcAPUN IYEK@ABF0cDIGIT ZEROdONEdTWOdTHREEdFOURdFIVEdSIXdSEVENdEIGHTdNINE
@D7B0aHANGUL JUNGSEONG O-YEOcO-O-IcYO-AcYO-AEcYO-EOcU-YEOcU-I-IcYU-AEcYU-OcEU-AcEU-EOcEU-EcEU-O
cI-YA-OcI-YAEcI-YEOcI-YEcI-O-IcI-YOcI-YUcI-IcARAEA-AcARAEA-E@D7CBbJONGSEONG NIEUN-RIEUL
cNIEUN-CHIEUCHcSSANGTIKEUTcSSANGTIKEUT-PIEUPcTIKEUT-PIEUPcTIKEUT-SIOScTIKEUT-SIOS-KIYEOK
cTIKEUT-CIEUCcTIKEUT-CHIEUCHcTIKEUT-THIEUTHcRIEUL-SSANGKIYEOKcRIEUL-KIYEOK-HIEUH
cSSANGRIEUL-KHIEUKHcRIEUL-MIEUM-HIEUHcRIEUL-PIEUP-TIKEUTcRIEUL-PIEUP-PHIEUPHcRIEUL-YESIEUNG
cRIEUL-YEORINHIEUH-HIEUHcKAPYEOUNRIEULcMIEUM-NIEUNcMIEUM-SSANGNIEUNcSSANGMIEUMcMIEUM-PIEUP-SIOS
cMIEUM-CIEUCcPIEUP-TIKEUTcPIEUP-RIEUL-PHIEUPHcPIEUP-MIEUMcSSANGPIEUPcPIEUP-SIOS-TIKEUTcPIEUP-CIEUC
cPIEUP-CHIEUCHcSIOS-MIEUMcSIOS-KAPYEOUNPIEUPcSSANGSIOS-KIYEOKcSSANGSIOS-TIKEUTcSIOS-PANSIOS
cSIOS-CIEUCcSIOS-CHIEUCHcSIOS-THIEUTHcSIOS-HIEUHcPANSIOS-PIEUPcPANSIOS-KAPYEOUNPIEUP
cYESIEUNG-MIEUMcYESIEUNG-HIEUHcCIEUC-PIEUPcCIEUC-SSANGPIEUPcSSANGCIEUCcPHIEUPH-SIOS
cPHIEUPH-THIEUTH@FB00aLATIN SMALL LIGATURE FFdFIdFLdFFIdFFLdLONG S TdST
@FB13aARMENIAN SMALL LIGATURE MEN NOWeECHeINIdVEW NOWdMEN XEH@FB1DaHEBREW LETTER YOD WITH HIRIQ
bPOINT JUDEO-SPANISH VARIKAbLIGATURE YIDDISH YOD YOD PATAHbLETTER ALTERNATIVE AYINcWIDE ALEFdDALET
dHEdKAFdLAMEDdFINAL MEMdRESHdTAVcALTERNATIVE PLUS SIGNcSHIN WITH SHIN DOTeSIN DOT
eDAGESH AND SHIN DOTgSIN DOTcALEF WITH PATAHeQAMATSeMAPIQcBET WITH DAGESHcGIMEL WITH DAGESH
cDALET WITH DAGESHcHE WITH MAPIQcVAV WITH DAGESHcZAYIN WITH DAGESH@FB38cTET WITH DAGESH
cYOD WITH DAGESHcFINAL KAF WITH DAGESHcKAF WITH DAGESHcLAMED WITH DAGESH@FB3EcMEM WITH DAGESH
@FB40cNUN WITH DAGESHcSAMEKH WITH DAGESH@FB43cFINAL PE WITH DAGESHcPE WITH DAGESH
@FB46cTSADI WITH DAGESHcQOF WITH DAGESHcRESH WITH DAGESHcSHIN WITH DAGESHcTAV WITH DAGESH
cVAV WITH HOLAMcBET WITH RAFEcKAF WITH RAFEcPE WITH RAFEbLIGATURE ALEF LAMED
aARABIC LETTER ALEF WASLA ISOLATED FORMeFINAL FORMcBEEH ISOLATED FORMdFINAL FORMdINITIAL FORM
dMEDIAL FORMcPEH ISOLATED FORMdFINAL FORMdINITIAL FORMdMEDIAL FORMcBEHEH ISOLATED FORMdFINAL FORM
dINITIAL FORMdMEDIAL FORMcTTEHEH ISOLATED FORMdFINAL FORMdINITIAL FORMdMEDIAL FORM
cTEHEH ISOLATED FORMdFINAL FORMdINITIAL FORMdMEDIAL FORMcTTEH ISOLATED FORMdFINAL FORM
dINITIAL FORMdMEDIAL FORMcVEH ISOLATED FORMdFINAL FORMdINITIAL FORMdMEDIAL FORM
cPEHEH ISOLATED FORMdFINAL FORMdINITIAL FORMdMEDIAL FORMcDYEH ISOLATED FORMdFINAL FORM
dINITIAL FORMdMEDIAL FORMcNYEH ISOLATED FORMdFINAL FORMdINITIAL FORMdMEDIAL FORM
cTCHEH ISOLATED FORMdFINAL FORMdINITIAL FORMdMEDIAL FORMcTCHEHEH ISOLATED FORMdFINAL FORM
dINITIAL FORMdMEDIAL FORMcDDAHAL ISOLATED FORMdFINAL FORMcDAHAL ISOLATED FORMdFINAL FORM
cDUL ISOLATED FORMdFINAL FORMcDDAL ISOLATED FORMdFINAL FORMcJEH ISOLATED FORMdFINAL FORM
cRREH ISOLATED FORMdFINAL FORMcKEHEH ISOLATED FORMdFINAL FORMdINITIAL FORMdMEDIAL FORM
cGAF ISOLATED FORMdFINAL FORMdINITIAL FORMdMEDIAL FORMcGUEH ISOLATED FORMdFINAL FORMdINITIAL FORM
dMEDIAL FORMcNGOEH ISOLATED FORMdFINAL FORMdINITIAL FORMdMEDIAL FORMcNOON GHUNNA ISOLATED FORM
eFINAL FORMcRNOON ISOLATED FORMdFINAL FORMdINITIAL FORMdMEDIAL FORM
cHEH WITH YEH ABOVE ISOLATED FORMgFINAL FORMdGOAL ISOLATED FORMeFINAL FORMeINITIAL FORM
eMEDIAL FORMdDOACHASHMEE ISOLATED FORMeFINAL FORMeINITIAL FORMeMEDIAL FORM
cYEH BARREE ISOLATED FORMeFINAL FORMeWITH HAMZA ABOVE ISOLATED FORMhFINAL FORMbSYMBOL DOT ABOVE
dBELOWcTWO DOTS ABOVEeBELOWcTHREE DOTS ABOVEeBELOWePOINTING DOWNWARDS ABOVEgBELOWcFOUR DOTS ABOVE
eBELOWcDOUBLE VERTICAL BAR BELOWcTWO DOTS VERTICALLY ABOVEfBELOWcRINGcSMALL TAH ABOVEeBELOW
cWASLA ABOVE@FBD3bLETTER NG ISOLATED FORMdFINAL FORMdINITIAL FORMdMEDIAL FORMcU ISOLATED FORM
dFINAL FORMcOE ISOLATED FORMdFINAL FORMcYU ISOLATED FORMdFINAL FORM
cU WITH HAMZA ABOVE ISOLATED FORMcVE ISOLATED FORMdFINAL FORMcKIRGHIZ OE ISOLATED FORMeFINAL FORM
dYU ISOLATED FORMeFINAL FORMcE ISOLATED FORMdFINAL FORMdINITIAL FORMdMEDIAL FORM
cUIGHUR KAZAKH KIRGHIZ ALEF MAKSURA INITIAL FORMhMEDIAL FORM
bLIGATURE YEH WITH HAMZA ABOVE WITH ALEF ISOLATED FORMiFINAL FORMhAE ISOLATED FORMiFINAL FORM
hWAW ISOLATED FORMiFINAL FORMhU ISOLATED FORMiFINAL FORMhOE ISOLATED FORMiFINAL FORM
hYU ISOLATED FORMiFINAL FORMhE ISOLATED FORMiFINAL FORMiINITIAL FORM
cUIGHUR KIRGHIZ YEH WITH HAMZA ABOVE WITH ALEF MAKSURA ISOLATED FORMlFINAL FORMlINITIAL FORM
bLETTER FARSI YEH ISOLATED FORMeFINAL FORMeINITIAL FORMeMEDIAL FORM
bLIGATURE YEH WITH HAMZA ABOVE WITH JEEM ISOLATED FORMhHAH ISOLATED FORMhMEEM ISOLATED FORM
hALEF MAKSURA ISOLATED FORMhYEH ISOLATED FORMcBEH WITH JEEM ISOLATED FORMeHAH ISOLATED FORM
eKHAH ISOLATED FORMeMEEM ISOLATED FORMeALEF MAKSURA ISOLATED FORMeYEH ISOLATED FORM
cTEH WITH JEEM ISOLATED FORMeHAH ISOLATED FORMeKHAH ISOLATED FORMeMEEM ISOLATED FORM
eALEF MAKSURA ISOLATED FORMeYEH ISOLATED FORMcTHEH WITH JEEM ISOLATED FORMeMEEM ISOLATED FORM
eALEF MAKSURA ISOLATED FORMeYEH ISOLATED FORMcJEEM WITH HAH ISOLATED FORMeMEEM ISOLATED FORM
cHAH WITH JEEM ISOLATED FORMeMEEM ISOLATED FORMcKHAH WITH JEEM ISOLATED FORMeHAH ISOLATED FORM
eMEEM ISOLATED FORMcSEEN WITH JEEM ISOLATED FORMeHAH ISOLATED FORMeKHAH ISOLATED FORM
eMEEM ISOLATED FORMcSAD WITH HAH ISOLATED FORMeMEEM ISOLATED FORMcDAD WITH JEEM ISOLATED FORM
eHAH ISOLATED FORMeKHAH ISOLATED FORMeMEEM ISOLATED FORMcTAH WITH HAH ISOLATED FORM
eMEEM ISOLATED FORMcZAH WITH MEEM ISOLATED FORMcAIN WITH JEEM ISOLATED FORMeMEEM ISOLATED FORM
cGHAIN WITH JEEM ISOLATED FORMeMEEM ISOLATED FORMcFEH WITH JEEM ISOLATED FORMeHAH ISOLATED FORM
eKHAH ISOLATED FORMeMEEM ISOLATED FORMeALEF MAKSURA ISOLATED FORMeYEH ISOLATED FORM
cQAF WITH HAH ISOLATED FORMeMEEM ISOLATED FORMeALEF MAKSURA ISOLATED FORMeYEH ISOLATED FORM
cKAF WITH ALEF ISOLATED FORMeJEEM ISOLATED FORMeHAH ISOLATED FORMeKHAH ISOLATED FORM
eLAM ISOLATED FORMeMEEM ISOLATED FORMeALEF MAKSURA ISOLATED FORMeYEH ISOLATED FORM
cLAM WITH JEEM ISOLATED FORMeHAH ISOLATED FORMeKHAH ISOLATED FORMeMEEM ISOLATED FORM
eALEF MAKSURA ISOLATED FORMeYEH ISOLATED FORMcMEEM WITH JEEM ISOLATED FORMeHAH ISOLATED FORM
eKHAH ISOLATED FORMeMEEM ISOLATED FORMeALEF MAKSURA ISOLATED FORMeYEH ISOLATED FORM
cNOON WITH JEEM ISOLATED FORMeHAH ISOLATED FORMeKHAH ISOLATED FORMeMEEM ISOLATED FORM
eALEF MAKSURA ISOLATED FORMeYEH ISOLATED FORMcHEH WITH JEEM ISOLATED FORMeMEEM ISOLATED FORM
eALEF MAKSURA ISOLATED FORMeYEH ISOLATED FORMcYEH WITH JEEM ISOLATED FORMeHAH ISOLATED FORM
eKHAH ISOLATED FORMeMEEM ISOLATED FORMeALEF MAKSURA ISOLATED FORMeYEH ISOLATED FORM
cTHAL WITH SUPERSCRIPT ALEF ISOLATED FORMcREH WITH SUPERSCRIPT ALEF ISOLATED FORM
cALEF MAKSURA WITH SUPERSCRIPT ALEF ISOLATED FORMcSHADDA WITH DAMMATAN ISOLATED FORM
eKASRATAN ISOLATED FORMeFATHA ISOLATED FORMeDAMMA ISOLATED FORMeKASRA ISOLATED FORM
eSUPERSCRIPT ALEF ISOLATED FORMcYEH WITH HAMZA ABOVE WITH REH FINAL FORMhZAIN FINAL FORM
hMEEM FINAL FORMhNOON FINAL FORMhALEF MAKSURA FINAL FORMhYEH FINAL FORMcBEH WITH REH FINAL FORM
eZAIN FINAL FORMeMEEM FINAL FORMeNOON FINAL FORMeALEF MAKSURA FINAL FORMeYEH FINAL FORM
cTEH WITH REH FINAL FORMeZAIN FINAL FORMeMEEM FINAL FORMeNOON FINAL FORMeALEF MAKSURA FINAL FORM
eYEH FINAL FORMcTHEH WITH REH FINAL FORMeZAIN FINAL FORMeMEEM FINAL FORMeNOON FINAL FORM
eALEF MAKSURA FINAL FORMeYEH FINAL FORMcFEH WITH ALEF MAKSURA FINAL FORMeYEH FINAL FORM
cQAF WITH ALEF MAKSURA FINAL FORMeYEH FINAL FORMcKAF WITH ALEF FINAL FORMeLAM FINAL FORM
eMEEM FINAL FORMeALEF MAKSURA FINAL FORMeYEH FINAL FORMcLAM WITH MEEM FINAL FORM
eALEF MAKSURA FINAL FORMeYEH FINAL FORMcMEEM WITH ALEF FINAL FORMeMEEM FINAL FORM
cNOON WITH REH FINAL FORMeZAIN FINAL FORMeMEEM FINAL FORMeNOON FINAL FORMeALEF MAKSURA FINAL FORM
eYEH FINAL FORMcALEF MAKSURA WITH SUPERSCRIPT ALEF FINAL FORMcYEH WITH REH FINAL FORM
eZAIN FINAL FORMeMEEM FINAL FORMeNOON FINAL FORMeALEF MAKSURA FINAL FORMeYEH FINAL FORM
eHAMZA ABOVE WITH JEEM INITIAL FORMhHAH INITIAL FORMhKHAH INITIAL FORMhMEEM INITIAL FORM
hHEH INITIAL FORMcBEH WITH JEEM INITIAL FORMeHAH INITIAL FORMeKHAH INITIAL FORMeMEEM INITIAL FORM
eHEH INITIAL FORMcTEH WITH JEEM INITIAL FORMeHAH INITIAL FORMeKHAH INITIAL FORMeMEEM INITIAL FORM
eHEH INITIAL FORMcTHEH WITH MEEM INITIAL FORMcJEEM WITH HAH INITIAL FORMeMEEM INITIAL FORM
cHAH WITH JEEM INITIAL FORMeMEEM INITIAL FORMcKHAH WITH JEEM INITIAL FORMeMEEM INITIAL FORM
cSEEN WITH JEEM INITIAL FORMeHAH INITIAL FORMeKHAH INITIAL FORMeMEEM INITIAL FORM
cSAD WITH HAH INITIAL FORMeKHAH INITIAL FORMeMEEM INITIAL FORMcDAD WITH JEEM INITIAL FORM
eHAH INITIAL FORMeKHAH INITIAL FORMeMEEM INITIAL FORMcTAH WITH HAH INITIAL FORM
cZAH WITH MEEM INITIAL FORMcAIN WITH JEEM INITIAL FORMeMEEM INITIAL FORM
cGHAIN WITH JEEM INITIAL FORMeMEEM INITIAL FORMcFEH WITH JEEM INITIAL FORMeHAH INITIAL FORM
eKHAH INITIAL FORMeMEEM INITIAL FORMcQAF WITH HAH INITIAL FORMeMEEM INITIAL FORM
cKAF WITH JEEM INITIAL FORMeHAH INITIAL FORMeKHAH INITIAL FORMeLAM INITIAL FORMeMEEM INITIAL FORM
cLAM WITH JEEM INITIAL FORMeHAH INITIAL FORMeKHAH INITIAL FORMeMEEM INITIAL FORMeHEH INITIAL FORM
cMEEM WITH JEEM INITIAL FORMeHAH INITIAL FORMeKHAH INITIAL FORMeMEEM INITIAL FORM
cNOON WITH JEEM INITIAL FORMeHAH INITIAL FORMeKHAH INITIAL FORMeMEEM INITIAL FORMeHEH INITIAL FORM
cHEH WITH JEEM INITIAL FORMeMEEM INITIAL FORMeSUPERSCRIPT ALEF INITIAL FORM
cYEH WITH JEEM INITIAL FORMeHAH INITIAL FORMeKHAH INITIAL FORMeMEEM INITIAL FORMeHEH INITIAL FORM
eHAMZA ABOVE WITH MEEM MEDIAL FORMhHEH MEDIAL FORMcBEH WITH MEEM MEDIAL FORMeHEH MEDIAL FORM
cTEH WITH MEEM MEDIAL FORMeHEH MEDIAL FORMcTHEH WITH MEEM MEDIAL FORMeHEH MEDIAL FORM
cSEEN WITH MEEM MEDIAL FORMeHEH MEDIAL FORMcSHEEN WITH MEEM MEDIAL FORMeHEH MEDIAL FORM
cKAF WITH LAM MEDIAL FORMeMEEM MEDIAL FORMcLAM WITH MEEM MEDIAL FORMcNOON WITH MEEM MEDIAL FORM
eHEH MEDIAL FORMcYEH WITH MEEM MEDIAL FORMeHEH MEDIAL FORMcSHADDA WITH FATHA MEDIAL FORM
eDAMMA MEDIAL FORMeKASRA MEDIAL FORMcTAH WITH ALEF MAKSURA ISOLATED FORMeYEH ISOLATED FORM
cAIN WITH ALEF MAKSURA ISOLATED FORMeYEH ISOLATED FORMcGHAIN WITH ALEF MAKSURA ISOLATED FORM
eYEH ISOLATED FORMcSEEN WITH ALEF MAKSURA ISOLATED FORMeYEH ISOLATED FORM
cSHEEN WITH ALEF MAKSURA ISOLATED FORMeYEH ISOLATED FORMcHAH WITH ALEF MAKSURA ISOLATED FORM
eYEH ISOLATED FORMcJEEM WITH ALEF MAKSURA ISOLATED FORMeYEH ISOLATED FORM
cKHAH WITH ALEF MAKSURA ISOLATED FORMeYEH ISOLATED FORMcSAD WITH ALEF MAKSURA ISOLATED FORM
eYEH ISOLATED FORMcDAD WITH ALEF MAKSURA ISOLATED FORMeYEH ISOLATED FORM
cSHEEN WITH JEEM ISOLATED FORMeHAH ISOLATED FORMeKHAH ISOLATED FORMeMEEM ISOLATED FORM
eREH ISOLATED FORMcSEEN WITH REH ISOLATED FORMcSAD WITH REH ISOLATED FORM
cDAD WITH REH ISOLATED FORMcTAH WITH ALEF MAKSURA FINAL FORMeYEH FINAL FORM
cAIN WITH ALEF MAKSURA FINAL FORMeYEH FINAL FORMcGHAIN WITH ALEF MAKSURA FINAL FORMeYEH FINAL FORM
cSEEN WITH ALEF MAKSURA FINAL FORMeYEH FINAL FORMcSHEEN WITH ALEF MAKSURA FINAL FORM
eYEH FINAL FORMcHAH WITH ALEF MAKSURA FINAL FORMeYEH FINAL FORMcJEEM WITH ALEF MAKSURA FINAL FORM
eYEH FINAL FORMcKHAH WITH ALEF MAKSURA FINAL FORMeYEH FINAL FORMcSAD WITH ALEF MAKSURA FINAL FORM
eYEH FINAL FORMcDAD WITH ALEF MAKSURA FINAL FORMeYEH FINAL FORMcSHEEN WITH JEEM FINAL FORM
eHAH FINAL FORMeKHAH FINAL FORMeMEEM FINAL FORMeREH FINAL FORMcSEEN WITH REH FINAL FORM
cSAD WITH REH FINAL FORMcDAD WITH REH FINAL FORMcSHEEN WITH JEEM INITIAL FORMeHAH INITIAL FORM
eKHAH INITIAL FORMeMEEM INITIAL FORMcSEEN WITH HEH INITIAL FORMcSHEEN WITH HEH INITIAL FORM
cTAH WITH MEEM INITIAL FORMcSEEN WITH JEEM MEDIAL FORMeHAH MEDIAL FORMeKHAH MEDIAL FORM
cSHEEN WITH JEEM MEDIAL FORMeHAH MEDIAL FORMeKHAH MEDIAL FORMcTAH WITH MEEM MEDIAL FORM
cZAH WITH MEEM MEDIAL FORMcALEF WITH FATHATAN FINAL FORMfISOLATED FORMaORNATE LEFT PARENTHESIS
bRIGHT PARENTHESISaARABIC LIGATURE RAHIMAHU ALLAAHcRADI ALLAAHU ANHeANHAAeANHUMeANHUMAAeANHUNNA
cSALLALLAAHU ALAYHI WA-AALIHcALAYHI AS-SALAAMcALAYHIM AS-SALAAMcALAYHIMAA AS-SALAAM
cALAYHI AS-SALAATU WAS-SALAAMcQUDDISA SIRRAHcSALLALLAHU ALAYHI WAAALIHEE WA-SALLAM
cALAYHAA AS-SALAAMcTABAARAKA WA-TAAALAAcRAHIMAHUM ALLAAHcTEH WITH JEEM WITH MEEM INITIAL FORM
eHAH WITH JEEM FINAL FORMhINITIAL FORMgMEEM INITIAL FORMeKHAH WITH MEEM INITIAL FORM
eMEEM WITH JEEM INITIAL FORMgHAH INITIAL FORMgKHAH INITIAL FORMcJEEM WITH MEEM WITH HAH FINAL FORM
hINITIAL FORMcHAH WITH MEEM WITH YEH FINAL FORMgALEF MAKSURA FINAL FORM
cSEEN WITH HAH WITH JEEM INITIAL FORMeJEEM WITH HAH INITIAL FORMgALEF MAKSURA FINAL FORM
eMEEM WITH HAH FINAL FORMhINITIAL FORMgJEEM INITIAL FORMgMEEM FINAL FORMhINITIAL FORM
cSAD WITH HAH WITH HAH FINAL FORMhINITIAL FORMeMEEM WITH MEEM FINAL FORM
cSHEEN WITH HAH WITH MEEM FINAL FORMhINITIAL FORMeJEEM WITH YEH FINAL FORM
eMEEM WITH KHAH FINAL FORMhINITIAL FORMgMEEM FINAL FORMhINITIAL FORM
cDAD WITH HAH WITH ALEF MAKSURA FINAL FORMeKHAH WITH MEEM FINAL FORMhINITIAL FORM
cTAH WITH MEEM WITH HAH FINAL FORMhINITIAL FORMgMEEM INITIAL FORMgYEH FINAL FORM
cAIN WITH JEEM WITH MEEM FINAL FORMeMEEM WITH MEEM FINAL FORMhINITIAL FORMgALEF MAKSURA FINAL FORM
cGHAIN WITH MEEM WITH MEEM FINAL FORMgYEH FINAL FORMgALEF MAKSURA FINAL FORM
cFEH WITH KHAH WITH MEEM FINAL FORMhINITIAL FORMcQAF WITH MEEM WITH HAH FINAL FORMgMEEM FINAL FORM
cLAM WITH HAH WITH MEEM FINAL FORMgYEH FINAL FORMgALEF MAKSURA FINAL FORM
eJEEM WITH JEEM INITIAL FORMhFINAL FORMeKHAH WITH MEEM FINAL FORMhINITIAL FORM
eMEEM WITH HAH FINAL FORMhINITIAL FORMcMEEM WITH HAH WITH JEEM INITIAL FORMgMEEM INITIAL FORM
gYEH FINAL FORMeJEEM WITH HAH INITIAL FORMgMEEM INITIAL FORMeKHAH WITH JEEM INITIAL FORM
gMEEM INITIAL FORM@FD92eJEEM WITH KHAH INITIAL FORMcHEH WITH MEEM WITH JEEM INITIAL FORM
gMEEM INITIAL FORMcNOON WITH HAH WITH MEEM INITIAL FORMgALEF MAKSURA FINAL FORM
eJEEM WITH MEEM FINAL FORMhINITIAL FORMgALEF MAKSURA FINAL FORMeMEEM WITH YEH FINAL FORM
gALEF MAKSURA FINAL FORMcYEH WITH MEEM WITH MEEM FINAL FORMhINITIAL FORM
cBEH WITH KHAH WITH YEH FINAL FORMcTEH WITH JEEM WITH YEH FINAL FORMgALEF MAKSURA FINAL FORM
eKHAH WITH YEH FINAL FORMgALEF MAKSURA FINAL FORMeMEEM WITH YEH FINAL FORMgALEF MAKSURA FINAL FORM
cJEEM WITH MEEM WITH YEH FINAL FORMeHAH WITH ALEF MAKSURA FINAL FORM
eMEEM WITH ALEF MAKSURA FINAL FORMcSEEN WITH KHAH WITH ALEF MAKSURA FINAL FORM
cSAD WITH HAH WITH YEH FINAL FORMcSHEEN WITH HAH WITH YEH FINAL FORM
cDAD WITH HAH WITH YEH FINAL FORMcLAM WITH JEEM WITH YEH FINAL FORMeMEEM WITH YEH FINAL FORM
cYEH WITH HAH WITH YEH FINAL FORMeJEEM WITH YEH FINAL FORMeMEEM WITH YEH FINAL FORM
cMEEM WITH MEEM WITH YEH FINAL FORMcQAF WITH MEEM WITH YEH FINAL FORM
cNOON WITH HAH WITH YEH FINAL FORMcQAF WITH MEEM WITH HAH INITIAL FORM
cLAM WITH HAH WITH MEEM INITIAL FORMcAIN WITH MEEM WITH YEH FINAL FORM
cKAF WITH MEEM WITH YEH FINAL FORMcNOON WITH JEEM WITH HAH INITIAL FORM
cMEEM WITH KHAH WITH YEH FINAL FORMcLAM WITH JEEM WITH MEEM INITIAL FORM
cKAF WITH MEEM WITH MEEM FINAL FORMcLAM WITH JEEM WITH MEEM FINAL FORM
cNOON WITH JEEM WITH HAH FINAL FORMcJEEM WITH HAH WITH YEH FINAL FORM
cHAH WITH JEEM WITH YEH FINAL FORMcMEEM WITH JEEM WITH YEH FINAL FORM
cFEH WITH MEEM WITH YEH FINAL FORMcBEH WITH HAH WITH YEH FINAL FORM
cKAF WITH MEEM WITH MEEM INITIAL FORMcAIN WITH JEEM WITH MEEM INITIAL FORM
cSAD WITH MEEM WITH MEEM INITIAL FORMcSEEN WITH KHAH WITH YEH FINAL FORM
cNOON WITH JEEM WITH YEH FINAL FORM@FDCFcSALAAMUHU ALAYNAA
@FDF0cSALLA USED AS KORANIC STOP SIGN ISOLATED FORMcQALA USED AS KORANIC STOP SIGN ISOLATED FORM
cALLAH ISOLATED FORMcAKBAR ISOLATED FORMcMOHAMMAD ISOLATED FORMcSALAM ISOLATED FORM
cRASOUL ISOLATED FORMcALAYHE ISOLATED FORMcWASALLAM ISOLATED FORMcSALLA ISOLATED FORM
cSALLALLAHOU ALAYHE WASALLAMcJALLAJALALOUHOUaRIAL SIGN
aARABIC LIGATURE BISMILLAH AR-RAHMAN AR-RAHEEMcSUBHAANAHU WA TAAALAAcAZZA WA JALL
@FE10aPRESENTATION FORM FOR VERTICAL COMMAeIDEOGRAPHIC COMMAfFULL STOPeCOLONeSEMICOLON
eEXCLAMATION MARKeQUESTION MARKeLEFT WHITE LENTICULAR BRACKETeRIGHT WHITE LENTICULAR BRAKCET
eHORIZONTAL ELLIPSIS@FE20aCOMBINING LIGATURE LEFT HALFcRIGHT HALFbDOUBLE TILDE LEFT HALF
dRIGHT HALFbMACRON LEFT HALFcRIGHT HALFbCONJOINING MACRONbLIGATURE LEFT HALF BELOW
cRIGHT HALF BELOWbTILDE LEFT HALF BELOWcRIGHT HALF BELOWbMACRON LEFT HALF BELOWcRIGHT HALF BELOW
bCONJOINING MACRON BELOWbCYRILLIC TITLO LEFT HALFdRIGHT HALF
aPRESENTATION FORM FOR VERTICAL TWO DOT LEADEReEM DASHeEN DASHeLOW LINEeWAVY LOW LINE
eLEFT PARENTHESISeRIGHT PARENTHESISeLEFT CURLY BRACKETeRIGHT CURLY BRACKET
eLEFT TORTOISE SHELL BRACKETeRIGHT TORTOISE SHELL BRACKETeLEFT BLACK LENTICULAR BRACKET
eRIGHT BLACK LENTICULAR BRACKETeLEFT DOUBLE ANGLE BRACKETeRIGHT DOUBLE ANGLE BRACKET
eLEFT ANGLE BRACKETeRIGHT ANGLE BRACKETeLEFT CORNER BRACKETeRIGHT CORNER BRACKET
eLEFT WHITE CORNER BRACKETeRIGHT WHITE CORNER BRACKETaSESAME DOTaWHITE SESAME DOT
aPRESENTATION FORM FOR VERTICAL LEFT SQUARE BRACKETeRIGHT SQUARE BRACKETaDASHED OVERLINE
aCENTRELINE OVERLINEaWAVY OVERLINEaDOUBLE WAVY OVERLINEaDASHED LOW LINEaCENTRELINE LOW LINE
aWAVY LOW LINEaSMALL COMMAbIDEOGRAPHIC COMMAbFULL STOP@FE54bSEMICOLONbCOLONbQUESTION MARK
bEXCLAMATION MARKbEM DASHbLEFT PARENTHESISbRIGHT PARENTHESISbLEFT CURLY BRACKET
bRIGHT CURLY BRACKETbLEFT TORTOISE SHELL BRACKETbRIGHT TORTOISE SHELL BRACKETbNUMBER SIGN
bAMPERSANDbASTERISKbPLUS SIGNbHYPHEN-MINUSbLESS-THAN SIGNbGREATER-THAN SIGNbEQUALS SIGN
@FE68bREVERSE SOLIDUSbDOLLAR SIGNbPERCENT SIGNbCOMMERCIAL AT@FE70aARABIC FATHATAN ISOLATED FORM
bTATWEEL WITH FATHATAN ABOVEbDAMMATAN ISOLATED FORMbTAIL FRAGMENTbKASRATAN ISOLATED FORM
@FE76bFATHA ISOLATED FORMcMEDIAL FORMbDAMMA ISOLATED FORMcMEDIAL FORMbKASRA ISOLATED FORM
cMEDIAL FORMbSHADDA ISOLATED FORMcMEDIAL FORMbSUKUN ISOLATED FORMcMEDIAL FORM
bLETTER HAMZA ISOLATED FORMcALEF WITH MADDA ABOVE ISOLATED FORMgFINAL FORM
eHAMZA ABOVE ISOLATED FORMgFINAL FORMcWAW WITH HAMZA ABOVE ISOLATED FORMgFINAL FORM
cALEF WITH HAMZA BELOW ISOLATED FORMgFINAL FORMcYEH WITH HAMZA ABOVE ISOLATED FORMgFINAL FORM
gINITIAL FORMgMEDIAL FORMcALEF ISOLATED FORMdFINAL FORMcBEH ISOLATED FORMdFINAL FORMdINITIAL FORM
dMEDIAL FORMcTEH MARBUTA ISOLATED FORMeFINAL FORMdISOLATED FORMdFINAL FORMdINITIAL FORM
dMEDIAL FORMcTHEH ISOLATED FORMdFINAL FORMdINITIAL FORMdMEDIAL FORMcJEEM ISOLATED FORMdFINAL FORM
dINITIAL FORMdMEDIAL FORMcHAH ISOLATED FORMdFINAL FORMdINITIAL FORMdMEDIAL FORMcKHAH ISOLATED FORM
dFINAL FORMdINITIAL FORMdMEDIAL FORMcDAL ISOLATED FORMdFINAL FORMcTHAL ISOLATED FORMdFINAL FORM
cREH ISOLATED FORMdFINAL FORMcZAIN ISOLATED FORMdFINAL FORMcSEEN ISOLATED FORMdFINAL FORM
dINITIAL FORMdMEDIAL FORMcSHEEN ISOLATED FORMdFINAL FORMdINITIAL FORMdMEDIAL FORM
cSAD ISOLATED FORMdFINAL FORMdINITIAL FORMdMEDIAL FORMcDAD ISOLATED FORMdFINAL FORMdINITIAL FORM
dMEDIAL FORMcTAH ISOLATED FORMdFINAL FORMdINITIAL FORMdMEDIAL FORMcZAH ISOLATED FORMdFINAL FORM
dINITIAL FORMdMEDIAL FORMcAIN ISOLATED FORMdFINAL FORMdINITIAL FORMdMEDIAL FORM
cGHAIN ISOLATED FORMdFINAL FORMdINITIAL FORMdMEDIAL FORMcFEH ISOLATED FORMdFINAL FORMdINITIAL FORM
dMEDIAL FORMcQAF ISOLATED FORMdFINAL FORMdINITIAL FORMdMEDIAL FORMcKAF ISOLATED FORMdFINAL FORM
dINITIAL FORMdMEDIAL FORMcLAM ISOLATED FORMdFINAL FORMdINITIAL FORMdMEDIAL FORMcMEEM ISOLATED FORM
dFINAL FORMdINITIAL FORMdMEDIAL FORMcNOON ISOLATED FORMdFINAL FORMdINITIAL FORMdMEDIAL FORM
cHEH ISOLATED FORMdFINAL FORMdINITIAL FORMdMEDIAL FORMcWAW ISOLATED FORMdFINAL FORM
cALEF MAKSURA ISOLATED FORMeFINAL FORMcYEH ISOLATED FORMdFINAL FORMdINITIAL FORMdMEDIAL FORM
bLIGATURE LAM WITH ALEF WITH MADDA ABOVE ISOLATED FORMiFINAL FORMgHAMZA ABOVE ISOLATED FORM
iFINAL FORMhBELOW ISOLATED FORMiFINAL FORMfISOLATED FORMfFINAL FORM@FEFFaZERO WIDTH NO-BREAK SPACE
@FF01aFULLWIDTH EXCLAMATION MARKbQUOTATION MARKbNUMBER SIGNbDOLLAR SIGNbPERCENT SIGNbAMPERSAND
bAPOSTROPHEbLEFT PARENTHESISbRIGHT PARENTHESISbASTERISKbPLUS SIGNbCOMMAbHYPHEN-MINUSbFULL STOP
bSOLIDUSbDIGIT ZEROcONEcTWOcTHREEcFOURcFIVEcSIXcSEVENcEIGHTcNINEbCOLONbSEMICOLONbLESS-THAN SIGN
bEQUALS SIGNbGREATER-THAN SIGNbQUESTION MARKbCOMMERCIAL ATbLATIN CAPITAL LETTER AeBeCeDeEeFeGeHeI
eJeKeLeMeNeOePeQeReSeTeUeVeWeXeYeZbLEFT SQUARE BRACKETbREVERSE SOLIDUSbRIGHT SQUARE BRACKET
bCIRCUMFLEX ACCENTbLOW LINEbGRAVE ACCENTbLATIN SMALL LETTER AeBeCeDeEeFeGeHeIeJeKeLeMeNeOePeQeReS
eTeUeVeWeXeYeZbLEFT CURLY BRACKETbVERTICAL LINEbRIGHT CURLY BRACKETbTILDEbLEFT WHITE PARENTHESIS
bRIGHT WHITE PARENTHESISaHALFWIDTH IDEOGRAPHIC FULL STOPbLEFT CORNER BRACKETbRIGHT CORNER BRACKET
bIDEOGRAPHIC COMMAbKATAKANA MIDDLE DOTcLETTER WOdSMALL AeIeUeEeOeYAeYUeYOeTU
bKATAKANA-HIRAGANA PROLONGED SOUND MARKbKATAKANA LETTER AdIdUdEdOdKAdKIdKUdKEdKOdSAdSIdSUdSEdSOdTA
dTIdTUdTEdTOdNAdNIdNUdNEdNOdHAdHIdHUdHEdHOdMAdMIdMUdMEdMOdYAdYUdYOdRAdRIdRUdREdROdWAdN
cVOICED SOUND MARKcSEMI-VOICED SOUND MARKbHANGUL FILLERcLETTER KIYEOKdSSANGKIYEOKdKIYEOK-SIOS
dNIEUNdNIEUN-CIEUCdNIEUN-HIEUHdTIKEUTdSSANGTIKEUTdRIEULdRIEUL-KIYEOKdRIEUL-MIEUMdRIEUL-PIEUP
dRIEUL-SIOSdRIEUL-THIEUTHdRIEUL-PHIEUPHdRIEUL-HIEUHdMIEUMdPIEUPdSSANGPIEUPdPIEUP-SIOSdSIOS
dSSANGSIOSdIEUNGdCIEUCdSSANGCIEUCdCHIEUCHdKHIEUKHdTHIEUTHdPHIEUPHdHIEUH@FFC2dAdAEdYAdYAEdEOdE
@FFCAdYEOdYEdOdWAdWAEdOE@FFD2dYOdUdWEOdWEdWIdYU@FFDAdEUdYIdI@FFE0aFULLWIDTH CENT SIGNbPOUND SIGN
bNOT SIGNbMACRONbBROKEN BARbYEN SIGNbWON SIGN@FFE8aHALFWIDTH FORMS LIGHT VERTICALbLEFTWARDS ARROW
bUPWARDS ARROWbRIGHTWARDS ARROWbDOWNWARDS ARROWbBLACK SQUAREbWHITE CIRCLE
@FFF9aINTERLINEAR ANNOTATION ANCHORcSEPARATORcTERMINATORaOBJECT REPLACEMENT CHARACTER
aREPLACEMENT CHARACTER"

end SceneRender.Script.CharacterName
