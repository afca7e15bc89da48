/-!
# Names of letters of rare scripts

The names of the letters of ancient and of rare scripts from U+10000 to U+1CEFF.
`CharacterName.find?` says how the lines are read.
-/

namespace SceneRender.Script.CharacterName

/-- The names from U+10000 to U+1CEFF. -/
def ancient : String :=
  "@10000aLINEAR B SYLLABLE B008 AdB038 EdB028 IdB061 OdB010 UdB001 DAdB045 DEdB007 DIdB014 DO
dB051 DUdB057 JAdB046 JE@1000DdB036 JOdB065 JUdB077 KAdB044 KEdB067 KIdB070 KOdB081 KUdB080 MA
dB013 MEdB073 MIdB015 MOdB023 MUdB006 NAdB024 NEdB030 NIdB052 NOdB055 NUdB003 PAdB072 PEdB039 PI
dB011 POdB050 PUdB016 QAdB078 QEdB021 QIdB032 QO@10028dB060 RAdB027 REdB053 RIdB002 ROdB026 RU
dB031 SAdB009 SEdB041 SIdB012 SOdB058 SUdB059 TAdB004 TEdB037 TIdB005 TOdB069 TUdB054 WAdB075 WE
dB040 WIdB042 WO@1003CdB017 ZAdB074 ZE@1003FdB020 ZOdB025 A2dB043 A3dB085 AUdB071 DWEdB090 DWO
dB048 NWAdB029 PU2dB062 PTEdB076 RA2dB033 RA3dB068 RO2dB066 TA2dB087 TWEdB091 TWO
@10050cSYMBOL B018dB019dB022dB034dB047dB049dB056dB063dB064dB079dB082dB083dB086dB089
@10080cIDEOGRAM B100 MANdB102 WOMANdB104 DEERdB105 EQUIDdB105F MAREdB105M STALLIONdB106F EWE
dB106M RAMdB107F SHE-GOATdB107M HE-GOATdB108F SOWdB108M BOARdB109F COWdB109M BULLdB120 WHEAT
dB121 BARLEYdB122 OLIVEdB123 SPICEdB125 CYPERUScMONOGRAM B127 KAPOdB128 KANAKOcIDEOGRAM B130 OIL
dB131 WINEdB132cMONOGRAM B133 AREPAdB135 MERIcIDEOGRAM B140 BRONZEdB141 GOLDdB142dB145 WOOLdB146
dB150dB151 HORNdB152dB153dB154cMONOGRAM B156 TURO2cIDEOGRAM B157dB158dB159 CLOTHdB160dB161
dB162 GARMENTdB163 ARMOURdB164dB165dB166dB167dB168dB169dB170dB171dB172dB173 MONTHdB174dB176 TREE
dB177dB178dB179dB180dB181dB182dB183dB184dB185dB189dB190dB191 HELMETdB220 FOOTSTOOLdB225 BATHTUB
dB230 SPEARdB231 ARROWdB232dB233 SWORDdB234dB236dB240 WHEELED CHARIOTdB241 CHARIOT
dB242 CHARIOT FRAMEdB243 WHEELdB245dB246cMONOGRAM B247 DIPTEcIDEOGRAM B248dB249dB251dB252dB253
dB254 DARTdB255dB256dB257dB258dB259dVESSEL B155eB200eB201eB202eB203eB204eB205eB206eB207eB208eB209
eB210eB211eB212eB213eB214eB215eB216eB217eB218eB219eB221eB222eB226eB227eB228eB229eB250eB305
@10100aAEGEAN WORD SEPARATOR LINEdDOTbCHECK MARK@10107bNUMBER ONEcTWOcTHREEcFOURcFIVEcSIXcSEVEN
cEIGHTcNINEcTENcTWENTYcTHIRTYcFORTYcFIFTYcSIXTYcSEVENTYcEIGHTYcNINETYcONE HUNDREDcTWO HUNDRED
cTHREE HUNDREDcFOUR HUNDREDcFIVE HUNDREDcSIX HUNDREDcSEVEN HUNDREDcEIGHT HUNDREDcNINE HUNDRED
cONE THOUSANDcTWO THOUSANDcTHREE THOUSANDcFOUR THOUSANDcFIVE THOUSANDcSIX THOUSANDcSEVEN THOUSAND
cEIGHT THOUSANDcNINE THOUSANDcTEN THOUSANDcTWENTY THOUSANDcTHIRTY THOUSANDcFORTY THOUSAND
cFIFTY THOUSANDcSIXTY THOUSANDcSEVENTY THOUSANDcEIGHTY THOUSANDcNINETY THOUSAND
@10137bWEIGHT BASE UNITcFIRST SUBUNITcSECOND SUBUNITcTHIRD SUBUNITcFOURTH SUBUNIT
bDRY MEASURE FIRST SUBUNITbLIQUID MEASURE FIRST SUBUNITbMEASURE SECOND SUBUNITcTHIRD SUBUNIT
aGREEK ACROPHONIC ATTIC ONE QUARTEReHALFeDRACHMAdFIVEdFIFTYdFIVE HUNDREDeTHOUSANDdFIFTY THOUSAND
dFIVE TALENTSdTEN TALENTSdFIFTY TALENTSdONE HUNDRED TALENTSdFIVE HUNDRED TALENTS
dONE THOUSAND TALENTSdFIVE THOUSAND TALENTSeSTATERSdTEN STATERSdFIFTY STATERSdONE HUNDRED STATERS
dFIVE HUNDRED STATERSdONE THOUSAND STATERSdTEN THOUSAND STATERSdFIFTY THOUSAND STATERSdTEN MNAS
cHERAEUM ONE PLETHRONcTHESPIAN ONEcHERMIONIAN ONEcEPIDAUREAN TWOcTHESPIAN TWO
cCYRENAIC TWO DRACHMAScEPIDAUREAN TWO DRACHMAScTROEZENIAN FIVEdTENeALTERNATE FORMcHERMIONIAN TEN
cMESSENIAN TENcTHESPIAN TENdTHIRTYcTROEZENIAN FIFTYeALTERNATE FORMcHERMIONIAN FIFTYcTHESPIAN FIFTY
dONE HUNDREDdTHREE HUNDREDcEPIDAUREAN FIVE HUNDREDcTROEZENIAN FIVE HUNDREDcTHESPIAN FIVE HUNDRED
cCARYSTIAN FIVE HUNDREDcNAXIAN FIVE HUNDREDcTHESPIAN ONE THOUSANDdFIVE THOUSANDcDELPHIC FIVE MNAS
cSTRATIAN FIFTY MNASbONE HALF SIGNeALTERNATE FORMbTWO THIRDS SIGNbTHREE QUARTERS SIGNbYEAR SIGN
bTALENT SIGNbDRACHMA SIGNbOBOL SIGNbTWO OBOLS SIGNbTHREE OBOLS SIGNbFOUR OBOLS SIGN
bFIVE OBOLS SIGNbMETRETES SIGNbKYATHOS BASE SIGNbLITRA SIGNbOUNKIA SIGNbXESTES SIGNbARTABE SIGN
bAROURA SIGNbGRAMMA SIGNbTRYBLION BASE SIGNbZERO SIGNbONE QUARTER SIGNbSINUSOID SIGN
bINDICTION SIGNaNOMISMA SIGN@10190aROMAN SEXTANS SIGNbUNCIA SIGNbSEMUNCIA SIGNbSEXTULA SIGN
bDIMIDIA SEXTULA SIGNbSILIQUA SIGNbDENARIUS SIGNbQUINARIUS SIGNbSESTERTIUS SIGNbDUPONDIUS SIGN
bAS SIGNbCENTURIAL SIGNaASCIA SYMBOL@101A0aGREEK SYMBOL TAU RHO
@101D0aPHAISTOS DISC SIGN PEDESTRIANdPLUMED HEADdTATTOOED HEADdCAPTIVEdCHILDdWOMANdHELMETdGAUNTLET
dTIARAdARROWdBOWdSHIELDdCLUBdMANACLESdMATTOCKdSAWdLIDdBOOMERANGdCARPENTRY PLANEdDOLIUMdCOMBdSLING
dCOLUMNdBEEHIVEdSHIPdHORNdHIDEdBULLS LEGdCATdRAMdEAGLEdDOVEdTUNNYdBEEdPLANE TREEdVINEdPAPYRUS
dROSETTEdLILYdOX BACKdFLUTEdGRATERdSTRAINERdSMALL AXEdWAVY BANDdCOMBINING OBLIQUE STROKE
@10280aLYCIAN LETTER AcEcBcBHcGcDcIcWcZcTHcJcKcQcLcMcNcMMcNNcUcPcKKcRcScTcTTcANcENcHcX
@102A0aCARIAN LETTER AcP2cDcLcUUUcRcLDcA2cQcBcMcOcD2cTcSHcSH2cScC-18cUcNNcXcNcTT2cPcSScIcEcUUUUcK
cK2cNDcUUcGcG2cSTcST2cNGcIIcC-39cTTcUUU2cRRcMBcMB2cMB3cMB4cLD2cE2cUUU3
@102E0aCOPTIC EPACT THOUSANDS MARKcDIGIT ONEdTWOdTHREEdFOURdFIVEdSIXdSEVENdEIGHTdNINEcNUMBER TEN
dTWENTYdTHIRTYdFORTYdFIFTYdSIXTYdSEVENTYdEIGHTYdNINETYdONE HUNDREDdTWO HUNDREDdTHREE HUNDRED
dFOUR HUNDREDdFIVE HUNDREDdSIX HUNDREDdSEVEN HUNDREDdEIGHT HUNDREDdNINE HUNDRED
@10300aOLD ITALIC LETTER AdBEdKEdDEdEdVEdZEdHEdTHEdIdKAdELdEMdENdESHdOdPEdSHEdKUdERdESdTEdUdEKS
dPHEdKHEdEFdERSdCHEdIIdUUdESScNUMERAL ONEdFIVEdTENdFIFTY@1032DcLETTER YEdNORTHERN TSEdSOUTHERN TSE
aGOTHIC LETTER AHSAcBAIRKANcGIBAcDAGScAIHVUScQAIRTHRAcIUJAcHAGLcTHIUTHcEIScKUSMAcLAGUScMANNA
cNAUTHScJERcURUScPAIRTHRAcNINETYcRAIDAcSAUILcTEIWScWINJAcFAIHUcIGGWScHWAIRcOTHALcNINE HUNDRED
@10350aOLD PERMIC LETTER ANdBURdGAIdDOIdEdZHOIdDZHOIdZATAdDZITAdIdKOKEdLEIdMENOEdNENOEdVOOIdPEEI
dREIdSIIdTAIdUdCHERYdSHOOIdSHCHOOIdYRYdYERUdOdOOdEFdHAdTSIUdVERdYERdYERIdYATdIEdYUdYAdIA
aCOMBINING OLD PERMIC LETTER ANeDOIeZATAeNENOEeSII@10380aUGARITIC LETTER ALPAcBETAcGAMLAcKHAcDELTA
cHOcWOcZETAcHOTAcTETcYODcKAFcSHINcLAMDAcMEMcDHALcNUNcZUcSAMKAcAINcPUcSADEcQOPAcRASHAcTHANNAcGHAIN
cTOcIcUcSSU@1039FbWORD DIVIDERaOLD PERSIAN SIGN AdIdUdKAdKUdGAdGUdXAdCAdJAdJIdTAdTUdDAdDIdDUdTHA
dPAdBAdFAdNAdNUdMAdMIdMUdYAdVAdVIdRAdRUdLAdSAdZAdSHAdSSAdHA@103C8dAURAMAZDAAdAURAMAZDAA-2
dAURAMAZDAAHAdXSHAAYATHIYAdDAHYAAUSHdDAHYAAUSH-2dBAGAdBUUMISHcWORD DIVIDERcNUMBER ONEdTWOdTEN
dTWENTYdHUNDRED@10400aDESERET CAPITAL LETTER LONG IeEeAeAHeOeOOdSHORT IeEeAeAHeOeOOdAYdOWdWUdYEEdH
dPEEdBEEdTEEdDEEdCHEEdJEEdKAYdGAYdEFdVEEdETHdTHEEdESdZEEdESHdZHEEdERdELdEMdENdENGdOIdEW
bSMALL LETTER LONG IeEeAeAHeOeOOdSHORT IeEeAeAHeOeOOdAYdOWdWUdYEEdHdPEEdBEEdTEEdDEEdCHEEdJEEdKAY
dGAYdEFdVEEdETHdTHEEdESdZEEdESHdZHEEdERdELdEMdENdENGdOIdEWaSHAVIAN LETTER PEEPcTOTcKICKcFEEcTHIGH
cSOcSUREcCHURCHcYEAcHUNGcBIBcDEADcGAGcVOWcTHEYcZOOcMEASUREcJUDGEcWOEcHA-HAcLOLLcMIMEcIFcEGGcASH
cADOcONcWOOLcOUTcAHcROARcNUNcEATcAGEcICEcUPcOAKcOOZEcOILcAWEcAREcORcAIRcERRcARRAYcEARcIANcYEW
aOSMANYA LETTER ALEFcBAcTAcJAcXAcKHAcDEELcRAcSAcSHIINcDHAcCAYNcGAcFAcQAAFcKAAFcLAANcMIINcNUUNcWAW
cHAcYAcAcEcIcOcUcAAcEEcOO@104A0bDIGIT ZEROcONEcTWOcTHREEcFOURcFIVEcSIXcSEVENcEIGHTcNINE
@104B0aOSAGE CAPITAL LETTER AdAIdAINdAHdBRAdCHAdEHCHAdEdEINdHAdHYAdIdKAdEHKAdKYAdLAdMAdNAdOdOINdPA
dEHPAdSAdSHAdTAdEHTAdTSAdEHTSAdTSHAdDHAdUdWAdKHAdGHAdZAdZHA@104D8bSMALL LETTER AdAIdAINdAHdBRAdCHA
dEHCHAdEdEINdHAdHYAdIdKAdEHKAdKYAdLAdMAdNAdOdOINdPAdEHPAdSAdSHAdTAdEHTAdTSAdEHTSAdTSHAdDHAdUdWA
dKHAdGHAdZAdZHA@10500aELBASAN LETTER AcBEcCEcCHEcDEcNDEcDHEcEIcEcFEcGEcGJEcHEcIcJEcKEcLEcLLEcMEcNE
cNAcNJEcOcPEcQEcREcRREcSEcSHEcTEcTHEcUcVEcXEcYcZEcZHEcGHEcGHAMMAcKHE
@10530aCAUCASIAN ALBANIAN LETTER ALTdBETdGIMdDATdEBdZARLdEYNdZHILdTASdCHAdYOWDdZHAdIRBdSHAdLAN
dINYAdXEYNdDYANdCARdJHOXdKARdLYITdHEYTdQAYdAORdCHOYdCHIdCYAYdMAQdQARdNOWCdDZYAYdSHAKdJAYNdONdTYAY
dFAMdDZAYdCHATdPENdGHEYSdRATdSEYKdVEYZdTIWRdSHOYdIWNdCYAWdCAYNdYAYDdPIWRdKIW@1056FcCITATION MARK
aVITHKUQI CAPITAL LETTER AdBBEdBEdCEdCHEdDEdDHEdEIdEdFEdGA@1057CdHAdHHAdIdIJEdJEdKAdLAdLLAdMEdNE
dNJEdOdPEdQAdRE@1058CdSEdSHEdTEdTHEdUdVEdXE@10594dYdZE@10597bSMALL LETTER AdBBEdBEdCEdCHEdDEdDHE
dEIdEdFEdGA@105A3dHAdHHAdIdIJEdJEdKAdLAdLLAdMEdNEdNJEdOdPEdQAdRE@105B3dSEdSHEdTEdTHEdUdVEdXE
@105BBdYdZE@10600aLINEAR A SIGN AB001dAB002dAB003dAB004dAB005dAB006dAB007dAB008dAB009dAB010dAB011
dAB013dAB016dAB017dAB020dAB021dAB021FdAB021MdAB022dAB022FdAB022MdAB023dAB023MdAB024dAB026dAB027
dAB028dA028BdAB029dAB030dAB031dAB034dAB037dAB038dAB039dAB040dAB041dAB044dAB045dAB046dAB047dAB048
dAB049dAB050dAB051dAB053dAB054dAB055dAB056dAB057dAB058dAB059dAB060dAB061dAB065dAB066dAB067dAB069
dAB070dAB073dAB074dAB076dAB077dAB078dAB079dAB080dAB081dAB082dAB085dAB086dAB087dA100-102dAB118
dAB120dA120BdAB122dAB123dAB131AdAB131BdA131CdAB164dAB171dAB180dAB188dAB191dA301dA302dA303dA304
dA305dA306dA307dA308dA309AdA309BdA309CdA310dA311dA312dA313AdA313BdA313CdA314dA315dA316dA317dA318
dA319dA320dA321dA322dA323dA324dA325dA326dA327dA328dA329dA330dA331dA332dA333dA334dA335dA336dA337
dA338dA339dA340dA341dA342dA343dA344dA345dA346dA347dA348dA349dA350dA351dA352dA353dA354dA355dA356
dA357dA358dA359dA360dA361dA362dA363dA364dA365dA366dA367dA368dA369dA370dA371dA400-VASdA401-VAS
dA402-VASdA403-VASdA404-VASdA405-VASdA406-VASdA407-VASdA408-VASdA409-VASdA410-VASdA411-VAS
dA412-VASdA413-VASdA414-VASdA415-VASdA416-VASdA417-VASdA418-VASdA501dA502dA503dA504dA505dA506dA508
dA509dA510dA511dA512dA513dA515dA516dA520dA521dA523dA524dA525dA526dA527dA528dA529dA530dA531dA532
dA534dA535dA536dA537dA538dA539dA540dA541dA542dA545dA547dA548dA549dA550dA551dA552dA553dA554dA555
dA556dA557dA559dA563dA564dA565dA566dA568dA569dA570dA571dA572dA573dA574dA575dA576dA577dA578dA579
dA580dA581dA582dA583dA584dA585dA586dA587dA588dA589dA591dA592dA594dA595dA596dA598dA600dA601dA602
dA603dA604dA606dA608dA609dA610dA611dA612dA613dA614dA615dA616dA617dA618dA619dA620dA621dA622dA623
dA624dA626dA627dA628dA629dA634dA637dA638dA640dA642dA643dA644dA645dA646dA648dA649dA651dA652dA653
dA654dA655dA656dA657dA658dA659dA660dA661dA662dA663dA664@10740dA701 AdA702 BdA703 DdA704 EdA705 F
dA706 HdA707 JdA708 KdA709 LdA709-2 L2dA709-3 L3dA709-4 L4dA709-6 L6dA710 WdA711 XdA712 Y
dA713 OMEGAdA714 ABBdA715 BBdA717 DDdA726 EYYYdA732 JE@10760dA800dA801dA802dA803dA804dA805dA806
dA807@10780aMODIFIER LETTER SMALL CAPITAL AAcSUPERSCRIPT TRIANGULAR COLONdHALF TRIANGULAR COLON
cSMALL AEdCAPITAL BdB WITH HOOK@10787dDZ DIGRAPHfWITH RETROFLEX HOOKgCURLdDEZH DIGRAPHdD WITH TAIL
fHOOKgAND TAILdREVERSED EdCLOSED REVERSED OPEN EdFENG DIGRAPHdRAMS HORNdCAPITAL GdG WITH HOOK
dCAPITAL G WITH HOOKdH WITH STROKEdCAPITAL HdHENG WITH HOOKdDOTLESS J WITH STROKE AND HOOK
dLS DIGRAPHdLZ DIGRAPHdL WITH BELTdCAPITAL L WITH BELTdL WITH RETROFLEX HOOK AND BELTdLEZH
eWITH RETROFLEX HOOKdTURNED YfWITH BELTdO WITH STROKEdCAPITAL OEdCLOSED OMEGAdQ
dTURNED R WITH LONG LEGiAND RETROFLEX HOOKdR WITH TAILfFISHHOOKdCAPITAL RdTC DIGRAPH WITH CURL
dTS DIGRAPHfWITH RETROFLEX HOOKdTESH DIGRAPHdT WITH RETROFLEX HOOKdV WITH RIGHT HOOK
@107B2dCAPITAL YcGLOTTAL STOP WITH STROKEcREVERSED GLOTTAL STOP WITH STROKEcBILABIAL CLICK
cDENTAL CLICKcLATERAL CLICKcALVEOLAR CLICKcRETROFLEX CLICK WITH RETROFLEX HOOKcSMALL S WITH CURL
@10800aCYPRIOT SYLLABLE AcEcIcOcUcJA@10808cJO@1080AcKAcKEcKIcKOcKUcLAcLEcLIcLOcLUcMAcMEcMIcMOcMU
cNAcNEcNIcNOcNUcPAcPEcPIcPOcPUcRAcREcRIcROcRUcSAcSEcSIcSOcSUcTAcTEcTIcTOcTUcWAcWEcWIcWO@10837cXA
cXE@1083CcZA@1083FcZOaIMPERIAL ARAMAIC LETTER ALEPHdBETHdGIMELdDALETHdHEdWAWdZAYINdHETHdTETHdYODH
dKAPHdLAMEDHdMEMdNUNdSAMEKHdAYINdPEdSADHEdQOPHdRESHdSHINdTAW@10857cSECTION SIGNcNUMBER ONEdTWO
dTHREEdTENdTWENTYdONE HUNDREDeTHOUSANDdTEN THOUSANDaPALMYRENE LETTER ALEPHcBETHcGIMELcDALETHcHE
cWAWcZAYINcHETHcTETHcYODHcKAPHcLAMEDHcMEMcFINAL NUNcNUNcSAMEKHcAYINcPEcSADHEcQOPHcRESHcSHINcTAW
bLEFT-POINTING FLEURONbRIGHT-POINTING FLEURONbNUMBER ONEcTWOcTHREEcFOURcFIVEcTENcTWENTY
aNABATAEAN LETTER FINAL ALEPHcALEPHcFINAL BETHcBETHcGIMELcDALETHcFINAL HEcHEcWAWcZAYINcHETHcTETH
cFINAL YODHcYODHcFINAL KAPHcKAPHcFINAL LAMEDHcLAMEDHcFINAL MEMcMEMcFINAL NUNcNUNcSAMEKHcAYINcPE
cSADHEcQOPHcRESHcFINAL SHINcSHINcTAW@108A7bNUMBER ONEcTWOcTHREEcFOURbCRUCIFORM NUMBER FOUR
bNUMBER FIVEcTENcTWENTYcONE HUNDRED@108E0aHATRAN LETTER ALEPHcBETHcGIMELcDALETH-RESHcHEcWAWcZAYN
cHETHcTETHcYODHcKAPHcLAMEDHcMEMcNUNcSAMEKHcAYNcPEcSADHEcQOPH@108F4cSHINcTAW@108FBbNUMBER ONEcFIVE
cTENcTWENTYcONE HUNDREDaPHOENICIAN LETTER ALFcBETcGAMLcDELTcHEcWAUcZAIcHETcTETcYODcKAFcLAMDcMEM
cNUNcSEMKcAINcPEcSADEcQOFcROSHcSHINcTAUbNUMBER ONEcTENcTWENTYcONE HUNDREDcTWOcTHREE
@1091FbWORD SEPARATORaLYDIAN LETTER AcBcGcDcEcVcIcYcKcLcMcNcOcRcSScTcUcFcQcScTTcANcENcLYcNNcC
@1093FbTRIANGULAR MARK@10980aMEROITIC HIEROGLYPHIC LETTER AdEdIdOdYAdWAdBAdBA-2dPAdMAdNAdNA-2dNE
dNE-2dRAdRA-2dLAdKHAdHHAdSAdSA-2dSEdKAdQAdTAdTA-2dTEdTE-2dTOdDAcSYMBOL VIDJdVIDJ-2
bCURSIVE LETTER AdEdIdOdYAdWAdBAdPAdMAdNAdNEdRAdLAdKHAdHHAdSAdARCHAIC SAdSEdKAdQAdTAdTEdTOdDA
@109BCcFRACTION ELEVEN TWELFTHSdONE HALFcLOGOGRAM RMTdIMNcNUMBER ONEdTWOdTHREEdFOURdFIVEdSIXdSEVEN
dEIGHTdNINEdTENdTWENTYdTHIRTYdFORTYdFIFTYdSIXTYdSEVENTY@109D2dONE HUNDREDdTWO HUNDRED
dTHREE HUNDREDdFOUR HUNDREDdFIVE HUNDREDdSIX HUNDREDdSEVEN HUNDREDdEIGHT HUNDREDdNINE HUNDRED
dONE THOUSANDdTWO THOUSANDdTHREE THOUSANDdFOUR THOUSANDdFIVE THOUSANDdSIX THOUSANDdSEVEN THOUSAND
dEIGHT THOUSANDdNINE THOUSANDdTEN THOUSANDdTWENTY THOUSANDdTHIRTY THOUSANDdFORTY THOUSAND
dFIFTY THOUSANDdSIXTY THOUSANDdSEVENTY THOUSANDdEIGHTY THOUSANDdNINETY THOUSAND
dONE HUNDRED THOUSANDdTWO HUNDRED THOUSANDdTHREE HUNDRED THOUSANDdFOUR HUNDRED THOUSAND
dFIVE HUNDRED THOUSANDdSIX HUNDRED THOUSANDdSEVEN HUNDRED THOUSANDdEIGHT HUNDRED THOUSAND
dNINE HUNDRED THOUSANDcFRACTION ONE TWELFTHdTWO TWELFTHSdTHREE TWELFTHSdFOUR TWELFTHS
dFIVE TWELFTHSdSIX TWELFTHSdSEVEN TWELFTHSdEIGHT TWELFTHSdNINE TWELFTHSdTEN TWELFTHS
aKHAROSHTHI LETTER AbVOWEL SIGN IdUdVOCALIC R@10A05dEdO@10A0CcLENGTH MARKbSIGN DOUBLE RING BELOW
cANUSVARAcVISARGAbLETTER KAcKHAcGAcGHA@10A15cCAcCHAcJA@10A19cNYAcTTAcTTHAcDDAcDDHAcNNAcTAcTHAcDA
cDHAcNAcPAcPHAcBAcBHAcMAcYAcRAcLAcVAcSHAcSSAcSAcZAcHAcKKAcTTTHAcTTTAcVHA@10A38bSIGN BAR ABOVE
cCAUDAcDOT BELOW@10A3FbVIRAMAbDIGIT ONEcTWOcTHREEcFOURbNUMBER TENcTWENTYcONE HUNDREDdTHOUSAND
bFRACTION ONE HALF@10A50bPUNCTUATION DOTcSMALL CIRCLEcCIRCLEcCRESCENT BARcMANGALAMcLOTUScDANDA
cDOUBLE DANDAcLINES@10A60aOLD SOUTH ARABIAN LETTER HEeLAMEDHeHETHeMEMeQOPHeWAWeSHINeRESHeBETHeTAW
eSATeKAPHeNUNeKHETHeSADHEeSAMEKHeFEeALEFeAYNeDHADHEeGIMELeDALETHeGHAYNeTETHeZAYNeDHALETHeYODHeTHAW
eTHETHdNUMBER ONEeFIFTYdNUMERIC INDICATORbNORTH ARABIAN LETTER HEHeLAMeHAHeMEEMeQAFeWAWeES-2eREH
eBEHeTEHeES-1eKAFeNOONeKHAHeSADeES-3eFEHeALEFeAINeDADeGEEMeDALeGHAINeTAHeZAINeTHALeYEHeTHEHeZAH
dNUMBER ONEeTENeTWENTY@10AC0aMANICHAEAN LETTER ALEPHcBETHcBHETHcGIMELcGHIMELcDALETHcHEcWAWbSIGN UD
bLETTER ZAYINcZHAYINcJAYINcJHAYINcHETHcTETHcYODHcKAPHcXAPHcKHAPHcLAMEDHcDHAMEDHcTHAMEDHcMEMcNUN
cSAMEKHcAYINcAAYINcPEcFEcSADHEcQOPHcXOPHcQHOPHcRESHcSHINcSSHINcTAWbABBREVIATION MARK ABOVEdBELOW
@10AEBbNUMBER ONEcFIVEcTENcTWENTYcONE HUNDREDbPUNCTUATION STARcFLEURONcDOUBLE DOT WITHIN DOT
cDOT WITHIN DOTcDOTcTWO DOTScLINE FILLER@10B00aAVESTAN LETTER AcAAcAOcAAOcANcAANcAEcAEEcEcEEcOcOO
cIcIIcUcUUcKEcXEcXYEcXVEcGEcGGEcGHEcCEcJEcTEcTHEcDEcDHEcTTEcPEcFEcBEcBHEcNGEcNGYEcNGVEcNEcNYEcNNE
cMEcHMEcYYEcYEcVEcREcLEcSEcZEcSHEcZHEcSHYEcSSHEcHE@10B39bABBREVIATION MARK
aTINY TWO DOTS OVER ONE DOT PUNCTUATIONaSMALL TWO DOTS OVER ONE DOT PUNCTUATION
aLARGE TWO DOTS OVER ONE DOT PUNCTUATIONbONE DOT OVER TWO DOTS PUNCTUATION
bTWO RINGS OVER ONE RING PUNCTUATIONbONE RING OVER TWO RINGS PUNCTUATION
aINSCRIPTIONAL PARTHIAN LETTER ALEPHdBETHdGIMELdDALETHdHEdWAWdZAYINdHETHdTETHdYODHdKAPHdLAMEDHdMEM
dNUNdSAMEKHdAYINdPEdSADHEdQOPHdRESHdSHINdTAW@10B58cNUMBER ONEdTWOdTHREEdFOURdTENdTWENTY
dONE HUNDREDeTHOUSANDbPAHLAVI LETTER ALEPHdBETHdGIMELdDALETHdHEdWAW-AYIN-RESHdZAYINdHETHdTETHdYODH
dKAPHdLAMEDHdMEM-QOPHdNUNdSAMEKHdPEdSADHEdSHINdTAW@10B78cNUMBER ONEdTWOdTHREEdFOURdTENdTWENTY
dONE HUNDREDeTHOUSANDaPSALTER PAHLAVI LETTER ALEPHdBETHdGIMELdDALETHdHEdWAW-AYIN-RESHdZAYINdHETH
dYODHdKAPHdLAMEDHdMEM-QOPHdNUNdSAMEKHdPEdSADHEdSHINdTAW@10B99cSECTION MARKcTURNED SECTION MARK
cFOUR DOTS WITH CROSSfDOT@10BA9cNUMBER ONEdTWOdTHREEdFOURdTENdTWENTYdONE HUNDRED
@10C00aOLD TURKIC LETTER ORKHON AdYENISEI AeAEdORKHON IdYENISEI IeEdORKHON OeOEdYENISEI OE
dORKHON ABdYENISEI ABdORKHON AEBdYENISEI AEBdORKHON AGdYENISEI AGdORKHON AEGdYENISEI AEGdORKHON AD
dYENISEI ADdORKHON AEDeEZdYENISEI EZdORKHON AYdYENISEI AYdORKHON AEYdYENISEI AEYdORKHON AEK
dYENISEI AEKdORKHON OEKdYENISEI OEKdORKHON ALdYENISEI ALdORKHON AELeELTeEMeANeAENdYENISEI AEN
dORKHON ENTdYENISEI ENTdORKHON ENCdYENISEI ENCdORKHON ENYdYENISEI ENYeANGdORKHON ENGdYENISEI AENG
dORKHON EPeOPeICeECdYENISEI ECdORKHON AQdYENISEI AQdORKHON IQdYENISEI IQdORKHON OQdYENISEI OQ
dORKHON ARdYENISEI ARdORKHON AEReASeAESeASHdYENISEI ASHdORKHON ESHdYENISEI ESHdORKHON AT
dYENISEI ATdORKHON AETdYENISEI AETdORKHON OTeBASH@10C80bHUNGARIAN CAPITAL LETTER AeAAeEBeAMBeEC
eENCeECSeEDeANDeEeCLOSE EeEEeEFeEGeEGYeEHeIeIIeEJeEKeAKeUNKeELeELYeEMeENeENYeOeOOeNIKOLSBURG OE
eRUDIMENTA OEeOEEeEPeEMPeEReSHORT EReESeESZeETeENTeETYeECHeUeUUeNIKOLSBURG UEeRUDIMENTA UEeEVeEZ
eEZSeENT-SHAPED SIGNeUS@10CC0cSMALL LETTER AeAAeEBeAMBeECeENCeECSeEDeANDeEeCLOSE EeEEeEFeEGeEGYeEH
eIeIIeEJeEKeAKeUNKeELeELYeEMeENeENYeOeOOeNIKOLSBURG OEeRUDIMENTA OEeOEEeEPeEMPeEReSHORT EReESeESZ
eETeENTeETYeECHeUeUUeNIKOLSBURG UEeRUDIMENTA UEeEVeEZeEZSeENT-SHAPED SIGNeUS@10CFAcNUMBER ONEdFIVE
dTENdFIFTYdONE HUNDREDeTHOUSANDaHANIFI ROHINGYA LETTER AdBAdPAdTAdTTAdJAdCAdHAdKHAdFAdDAdDDAdRA
dRRAdZAdSAdSHAdKAdGAdLAdMAdNAdWAdKINNA WAdYAdKINNA YAdNGAdNYAdVAcVOWEL AdIdUdEdOcMARK SAKIN
dNA KHONNAcSIGN HARBAHAYdTAHALAdTANAdTASSI@10D30cDIGIT ZEROdONEdTWOdTHREEdFOURdFIVEdSIXdSEVEN
dEIGHTdNINE@10E60aRUMI DIGIT ONEcTWOcTHREEcFOURcFIVEcSIXcSEVENcEIGHTcNINEbNUMBER TENcTWENTYcTHIRTY
cFORTYcFIFTYcSIXTYcSEVENTYcEIGHTYcNINETYcONE HUNDREDcTWO HUNDREDcTHREE HUNDREDcFOUR HUNDRED
cFIVE HUNDREDcSIX HUNDREDcSEVEN HUNDREDcEIGHT HUNDREDcNINE HUNDREDbFRACTION ONE HALFdQUARTERdTHIRD
cTWO THIRDS@10E80aYEZIDI LETTER ELIFcBEcPEcPHEcTHEcSEcCIMcCHIMcCHHIMcHHAcXAcDALcZALcRAcRHAcZAcJA
cSINcSHINcSADcDADcTAcZEcEYNcXHEYNcFAcVAdALTERNATE FORMcQAFcKAFcKHAFcGAFcLAMcMIMcNUNcUMcWAWcOWcEW
cHAYcYOTcET@10EABbCOMBINING HAMZA MARKcMADDA MARKbHYPHENATION MARK@10EB0bLETTER LAM WITH DOT ABOVE
cYOT WITH CIRCUMFLEX ABOVE@10EFDaARABIC SMALL LOW WORD SAKTAeQASReMADDAaOLD SOGDIAN LETTER ALEPH
dFINAL ALEPHdBETHdFINAL BETHdGIMELdHEdFINAL HEdWAWdZAYINdHETHdYODHdKAPHdLAMEDHdMEMdNUNdFINAL NUN
fWITH VERTICAL TAILdSAMEKHdAYINdALTERNATE AYINdPEdSADHEdFINAL SADHEfWITH VERTICAL TAIL
dRESH-AYIN-DALETHdSHINdTAWdFINAL TAWfWITH VERTICAL TAILcNUMBER ONEdTWOdTHREEdFOURdFIVEdTENdTWENTY
dTHIRTYdONE HUNDREDcFRACTION ONE HALFcLIGATURE AYIN-DALETH@10F30aSOGDIAN LETTER ALEPHcBETHcGIMEL
cHEcWAWcZAYINcHETHcYODHcKAPHcLAMEDHcMEMcNUNcSAMEKHcAYINcPEcSADHEcRESH-AYINcSHINcTAWcFETHcLESH
bINDEPENDENT SHINbCOMBINING DOT BELOWcTWO DOTS BELOWcDOT ABOVEcTWO DOTS ABOVEcCURVE ABOVEdBELOW
cHOOK ABOVEdBELOWcLONG HOOK BELOWcRESH BELOWcSTROKE BELOWbNUMBER ONEcTENcTWENTYcONE HUNDRED
bPUNCTUATION TWO VERTICAL BARSfWITH DOTScCIRCLE WITH DOTcTWO CIRCLES WITH DOTS
cHALF CIRCLE WITH DOT@10F70aOLD UYGHUR LETTER ALEPHdBETHdGIMEL-HETHdWAWdZAYINdFINAL HETHdYODHdKAPH
dLAMEDHdMEMdNUNdSAMEKHdPEdSADHEdRESHdSHINdTAWdLESHcCOMBINING DOT ABOVEeBELOWdTWO DOTS ABOVEfBELOW
cPUNCTUATION BARdTWO BARSeDOTSdFOUR DOTS@10FB0aCHORASMIAN LETTER ALEPHcSMALL ALEPHcBETHcGIMEL
cDALETHcHEcWAWcCURLED WAWcZAYINcHETHcYODHcKAPHcLAMEDHcMEMcNUNcSAMEKHcAYINcPEcRESHcSHINcTAW
bNUMBER ONEcTWOcTHREEcFOURcTENcTWENTYcONE HUNDRED@10FE0aELYMAIC LETTER ALEPHcBETHcGIMELcDALETHcHE
cWAWcZAYINcHETHcTETHcYODHcKAPHcLAMEDHcMEMcNUNcSAMEKHcAYINcPEcSADHEcQOPHcRESHcSHINcTAW
bLIGATURE ZAYIN-YODH@11000aBRAHMI SIGN CANDRABINDUcANUSVARAcVISARGAcJIHVAMULIYAcUPADHMANIYA
bLETTER AcAAcIcIIcUcUUcVOCALIC RdRRdLdLLcEcAIcOcAUcKAcKHAcGAcGHAcNGAcCAcCHAcJAcJHAcNYAcTTAcTTHA
cDDAcDDHAcNNAcTAcTHAcDAcDHAcNAcPAcPHAcBAcBHAcMAcYAcRAcLAcVAcSHAcSSAcSAcHAcLLAcOLD TAMIL LLLAeRRA
eNNNAbVOWEL SIGN AAdBHATTIPROLU AAdIdIIdUdUUdVOCALIC ReRReLeLLdEdAIdOdAUbVIRAMAbDANDAbDOUBLE DANDA
bPUNCTUATION DOTcDOUBLE DOTcLINEcCRESCENT BARcLOTUS@11052bNUMBER ONEcTWOcTHREEcFOURcFIVEcSIXcSEVEN
cEIGHTcNINEcTENcTWENTYcTHIRTYcFORTYcFIFTYcSIXTYcSEVENTYcEIGHTYcNINETYcONE HUNDREDdTHOUSAND
bDIGIT ZEROcONEcTWOcTHREEcFOURcFIVEcSIXcSEVENcEIGHTcNINEbSIGN OLD TAMIL VIRAMA
bLETTER OLD TAMIL SHORT EfObVOWEL SIGN OLD TAMIL SHORT EgObLETTER OLD TAMIL LLA
@1107FbNUMBER JOINERaKAITHI SIGN CANDRABINDUcANUSVARAcVISARGAbLETTER AcAAcIcIIcUcUUcEcAIcOcAUcKA
cKHAcGAcGHAcNGAcCAcCHAcJAcJHAcNYAcTTAcTTHAcDDAcDDDHAcDDHAcRHAcNNAcTAcTHAcDAcDHAcNAcPAcPHAcBAcBHA
cMAcYAcRAcLAcVAcSHAcSSAcSAcHAbVOWEL SIGN AAdIdIIdUdUUdEdAIdOdAUbSIGN VIRAMAcNUKTA
bABBREVIATION SIGNbENUMERATION SIGNbNUMBER SIGNbSECTION MARKbDOUBLE SECTION MARKbDANDA
bDOUBLE DANDAbVOWEL SIGN VOCALIC R@110CDbNUMBER SIGN ABOVE@110D0aSORA SOMPENG LETTER SAHdTAHdBAH
dCAHdDAHdGAHdMAHdNGAHdLAHdNAHdVAHdPAHdYAHdRAHdHAHdKAHdJAHdNYAHdAHdEEHdIHdUHdOHdEHdMAE
@110F0cDIGIT ZEROdONEdTWOdTHREEdFOURdFIVEdSIXdSEVENdEIGHTdNINE@11100aCHAKMA SIGN CANDRABINDU
cANUSVARAcVISARGAbLETTER AAcIcUcEcKAAcKHAAcGAAcGHAAcNGAAcCAAcCHAAcJAAcJHAAcNYAAcTTAAcTTHAAcDDAA
cDDHAAcNNAAcTAAcTHAAcDAAcDHAAcNAAcPAAcPHAAcBAAcBHAAcMAAcYYAAcYAAcRAAcLAAcWAAcSAAcHAAbVOWEL SIGN A
dIdIIdUdUUdEdAIdOdAUdOIbO MARKbAU MARKbVIRAMAbMAAYYAA@11136bDIGIT ZEROcONEcTWOcTHREEcFOURcFIVEcSIX
cSEVENcEIGHTcNINEbSECTION MARKbDANDAbDOUBLE DANDAbQUESTION MARKbLETTER LHAAbVOWEL SIGN AAdEI
bLETTER VAA@11150aMAHAJANI LETTER AcIcUcEcOcKAcKHAcGAcGHAcCAcCHAcJAcJHAcNYAcTTAcTTHAcDDAcDDHAcNNA
cTAcTHAcDAcDHAcNAcPAcPHAcBAcBHAcMAcRAcLAcVAcSAcHAcRRAbSIGN NUKTAbABBREVIATION SIGNbSECTION MARK
bLIGATURE SHRI@11180aSHARADA SIGN CANDRABINDUcANUSVARAcVISARGAbLETTER AcAAcIcIIcUcUUcVOCALIC RdRR
dLdLLcEcAIcOcAUcKAcKHAcGAcGHAcNGAcCAcCHAcJAcJHAcNYAcTTAcTTHAcDDAcDDHAcNNAcTAcTHAcDAcDHAcNAcPAcPHA
cBAcBHAcMAcYAcRAcLAcLLAcVAcSHAcSSAcSAcHAbVOWEL SIGN AAdIdIIdUdUUdVOCALIC ReRReLeLLdEdAIdOdAU
bSIGN VIRAMAcAVAGRAHAcJIHVAMULIYAcUPADHMANIYAbOMbDANDAbDOUBLE DANDAbABBREVIATION SIGNbSEPARATOR
bSANDHI MARKbSIGN NUKTAbVOWEL MODIFIER MARKbEXTRA SHORT VOWEL MARKbSUTRA MARK
bVOWEL SIGN PRISHTHAMATRA EbSIGN INVERTED CANDRABINDUbDIGIT ZEROcONEcTWOcTHREEcFOURcFIVEcSIXcSEVEN
cEIGHTcNINEbEKAMbSIGN SIDDHAMbHEADSTROKEbCONTINUATION SIGNbSECTION MARK-1cMARK-2
@111E1aSINHALA ARCHAIC DIGIT ONEdTWOdTHREEdFOURdFIVEdSIXdSEVENdEIGHTdNINEcNUMBER TENdTWENTYdTHIRTY
dFORTYdFIFTYdSIXTYdSEVENTYdEIGHTYdNINETYdONE HUNDREDeTHOUSAND@11200aKHOJKI LETTER AcAAcIcUcEcAIcO
cAUcKAcKHAcGAcGGAcGHAcNGAcCAcCHAcJAcJJA@11213cNYAcTTAcTTHAcDDAcDDHAcNNAcTAcTHAcDAcDDDAcDHAcNAcPA
cPHAcBAcBBAcBHAcMAcYAcRAcLAcVAcSAcHAcLLAbVOWEL SIGN AAdIdIIdUdEdAIdOdAUbSIGN ANUSVARAcVIRAMAcNUKTA
cSHADDAbDANDAbDOUBLE DANDAbWORD SEPARATORbSECTION MARKbDOUBLE SECTION MARKbABBREVIATION SIGN
bSIGN SUKUNbLETTER QAcSHORT IbVOWEL SIGN VOCALIC R@11280aMULTANI LETTER AcIcUcEcKAcKHAcGA
@11288cGHA@1128AcCAcCHAcJAcJJA@1128FcNYAcTTAcTTHAcDDAcDDDAcDDHAcNNAcTAcTHAcDAcDHAcNAcPAcPHAcBA
@1129FcBHAcMAcYAcRAcLAcVAcSAcHAcRRAcRHAbSECTION MARK@112B0aKHUDAWADI LETTER AcAAcIcIIcUcUUcEcAIcO
cAUcKAcKHAcGAcGGAcGHAcNGAcCAcCHAcJAcJJAcJHAcNYAcTTAcTTHAcDDAcDDDAcRRAcDDHAcNNAcTAcTHAcDAcDHAcNAcPA
cPHAcBAcBBAcBHAcMAcYAcRAcLAcVAcSHAcSAcHAbSIGN ANUSVARAbVOWEL SIGN AAdIdIIdUdUUdEdAIdOdAU
bSIGN NUKTAcVIRAMA@112F0bDIGIT ZEROcONEcTWOcTHREEcFOURcFIVEcSIXcSEVENcEIGHTcNINE
@11300aGRANTHA SIGN COMBINING ANUSVARA ABOVEcCANDRABINDUcANUSVARAcVISARGA@11305bLETTER AcAAcIcIIcU
cUUcVOCALIC RdL@1130FcEEcAI@11313cOOcAUcKAcKHAcGAcGHAcNGAcCAcCHAcJAcJHAcNYAcTTAcTTHAcDDAcDDHAcNNA
cTAcTHAcDAcDHAcNA@1132AcPAcPHAcBAcBHAcMAcYAcRA@11332cLAcLLA@11335cVAcSHAcSSAcSAcHA
@1133BaCOMBINING BINDU BELOWaGRANTHA SIGN NUKTAcAVAGRAHAbVOWEL SIGN AAdIdIIdUdUUdVOCALIC ReRR
@11347dEEdAI@1134BdOOdAUbSIGN VIRAMA@11350bOM@11357bAU LENGTH MARK@1135DbSIGN PLUTA
bLETTER VEDIC ANUSVARAdDOUBLE ANUSVARAcVOCALIC RRdLLbVOWEL SIGN VOCALIC LeLL
@11366aCOMBINING GRANTHA DIGIT ZEROdONEdTWOdTHREEdFOURdFIVEdSIX@11370cLETTER AdKAdNAdVIdPA
@11400aNEWA LETTER AcAAcIcIIcUcUUcVOCALIC RdRRdLdLLcEcAIcOcAUcKAcKHAcGAcGHAcNGAcNGHAcCAcCHAcJAcJHA
cNYAcNYHAcTTAcTTHAcDDAcDDHAcNNAcTAcTHAcDAcDHAcNAcNHAcPAcPHAcBAcBHAcMAcMHAcYAcRAcRHAcLAcLHAcWAcSHA
cSSAcSAcHAbVOWEL SIGN AAdIdIIdUdUUdVOCALIC ReRReLeLLdEdAIdOdAUbSIGN VIRAMAcCANDRABINDUcANUSVARA
cVISARGAcNUKTAcAVAGRAHAcFINAL ANUSVARAbOMbSIDDHIbDANDAbDOUBLE DANDAbCOMMAbGAP FILLER
bABBREVIATION SIGNbDIGIT ZEROcONEcTWOcTHREEcFOURcFIVEcSIXcSEVENcEIGHTcNINEbDOUBLE COMMA
bPLACEHOLDER MARK@1145DbINSERTION SIGNbSANDHI MARKbLETTER VEDIC ANUSVARAbSIGN JIHVAMULIYA
cUPADHMANIYA@11480aTIRHUTA ANJIbLETTER AcAAcIcIIcUcUUcVOCALIC RdRRdLdLLcEcAIcOcAUcKAcKHAcGAcGHA
cNGAcCAcCHAcJAcJHAcNYAcTTAcTTHAcDDAcDDHAcNNAcTAcTHAcDAcDHAcNAcPAcPHAcBAcBHAcMAcYAcRAcLAcVAcSHAcSSA
cSAcHAbVOWEL SIGN AAdIdIIdUdUUdVOCALIC ReRReLeLLdEdSHORT EdAIdOdSHORT OdAUbSIGN CANDRABINDU
cANUSVARAcVISARGAcVIRAMAcNUKTAcAVAGRAHAbGVANGbABBREVIATION SIGNbOM@114D0bDIGIT ZEROcONEcTWOcTHREE
cFOURcFIVEcSIXcSEVENcEIGHTcNINE@11580aSIDDHAM LETTER AcAAcIcIIcUcUUcVOCALIC RdRRdLdLLcEcAIcOcAUcKA
cKHAcGAcGHAcNGAcCAcCHAcJAcJHAcNYAcTTAcTTHAcDDAcDDHAcNNAcTAcTHAcDAcDHAcNAcPAcPHAcBAcBHAcMAcYAcRAcLA
cVAcSHAcSSAcSAcHAbVOWEL SIGN AAdIdIIdUdUUdVOCALIC ReRR@115B8dEdAIdOdAUbSIGN CANDRABINDUcANUSVARA
cVISARGAcVIRAMAcNUKTAcSIDDHAMbDANDAbDOUBLE DANDAbSEPARATOR DOTcBARbREPETITION MARK-1cMARK-2cMARK-3
bEND OF TEXT MARKbSECTION MARK WITH TRIDENT AND U-SHAPED ORNAMENTSgDOTTED CRESCENTS
eRAYS AND DOTTED CRESCENTShDOUBLE CRESCENTShTRIPLE CRESCENTSdDOUBLE RINGfWITH RAYS
dWITH DOUBLE CRESCENTSeTRIPLE CRESCENTSeQUADRUPLE CRESCENTSeSEPTUPLE CRESCENTSeCIRCLES AND RAYS
gTWO ENCLOSURESgFOUR ENCLOSURESbLETTER THREE-CIRCLE ALTERNATE IcTWO-CIRCLE ALTERNATE IeII
cALTERNATE UbVOWEL SIGN ALTERNATE UeUU@11600aMODI LETTER AcAAcIcIIcUcUUcVOCALIC RdRRdLdLLcEcAIcO
cAUcKAcKHAcGAcGHAcNGAcCAcCHAcJAcJHAcNYAcTTAcTTHAcDDAcDDHAcNNAcTAcTHAcDAcDHAcNAcPAcPHAcBAcBHAcMAcYA
cRAcLAcVAcSHAcSSAcSAcHAcLLAbVOWEL SIGN AAdIdIIdUdUUdVOCALIC ReRReLeLLdEdAIdOdAUbSIGN ANUSVARA
cVISARGAcVIRAMAcARDHACANDRAbDANDAbDOUBLE DANDAbABBREVIATION SIGNbSIGN HUVA@11650bDIGIT ZEROcONE
cTWOcTHREEcFOURcFIVEcSIXcSEVENcEIGHTcNINE@11660aMONGOLIAN BIRGA WITH ORNAMENTbROTATED BIRGA
bDOUBLE BIRGA WITH ORNAMENTbTRIPLE BIRGA WITH ORNAMENTbBIRGA WITH DOUBLE ORNAMENT
bROTATED BIRGA WITH ORNAMENTeDOUBLE ORNAMENTbINVERTED BIRGAdWITH DOUBLE ORNAMENTbSWIRL BIRGA
dWITH ORNAMENTeDOUBLE ORNAMENTbTURNED SWIRL BIRGA WITH DOUBLE ORNAMENT@11680aTAKRI LETTER AcAAcI
cIIcUcUUcEcAIcOcAUcKAcKHAcGAcGHAcNGAcCAcCHAcJAcJHAcNYAcTTAcTTHAcDDAcDDHAcNNAcTAcTHAcDAcDHAcNAcPA
cPHAcBAcBHAcMAcYAcRAcLAcVAcSHAcSAcHAcRRAbSIGN ANUSVARAcVISARGAbVOWEL SIGN AAdIdIIdUdUUdEdAIdOdAU
bSIGN VIRAMAcNUKTAbLETTER ARCHAIC KHAbABBREVIATION SIGN@116C0bDIGIT ZEROcONEcTWOcTHREEcFOURcFIVE
cSIXcSEVENcEIGHTcNINE@11700aAHOM LETTER KAcKHAcNGAcNAcTAcALTERNATE TAcPAcPHAcBAcMAcJAcCHAcTHAcRA
cLAcSAcNYAcHAcAcDAcDHAcGAcALTERNATE GAcGHAcBHAcJHAcALTERNATE BA@1171DbCONSONANT SIGN MEDIAL LAeRA
eLIGATING RAbVOWEL SIGN AdAAdIdIIdUdUUdEdAWdOdAIdAMbSIGN KILLER@11730bDIGIT ZEROcONEcTWOcTHREE
cFOURcFIVEcSIXcSEVENcEIGHTcNINEbNUMBER TENcTWENTYbSIGN SMALL SECTIONcSECTIONcRULAIbSYMBOL VI
bLETTER CAcTTAcTTHAcDDAcDDHAcNNAcLLA@11800aDOGRA LETTER AcAAcIcIIcUcUUcEcAIcOcAUcKAcKHAcGAcGHAcNGA
cCAcCHAcJAcJHAcNYAcTTAcTTHAcDDAcDDHAcNNAcTAcTHAcDAcDHAcNAcPAcPHAcBAcBHAcMAcYAcRAcLAcVAcSHAcSSAcSA
cHAcRRAbVOWEL SIGN AAdIdIIdUdUUdVOCALIC ReRRdEdAIdOdAUbSIGN ANUSVARAcVISARGAcVIRAMAcNUKTA
bABBREVIATION SIGN@118A0aWARANG CITI CAPITAL LETTER NGAAeAeWIeYUeYAeYOeIIeUUeEeOeANGeGAeKOeENYeYUJ
eUCeENNeODDeTTEeNUNGeDAeATeAMeBUePUeHIYOeHOLOeHORReHAReSSUUeSIIeVIYOcSMALL LETTER NGAAeAeWIeYUeYA
eYOeIIeUUeEeOeANGeGAeKOeENYeYUJeUCeENNeODDeTTEeNUNGeDAeATeAMeBUePUeHIYOeHOLOeHORReHAReSSUUeSII
eVIYOcDIGIT ZEROdONEdTWOdTHREEdFOURdFIVEdSIXdSEVENdEIGHTdNINEcNUMBER TENdTWENTYdTHIRTYdFORTYdFIFTY
dSIXTYdSEVENTYdEIGHTYdNINETY@118FFcOMaDIVES AKURU LETTER AdAAdIdIIdUdUUdE@11909dO@1190CdKAdKHAdGA
dGHAdNGAdCAdCHAdJA@11915dNYAdTTA@11918dDDAdDDHAdNNAdTAdTHAdDAdDHAdNAdPAdPHAdBAdBHAdMAdYAdYYAdRAdLA
dVAdSHAdSSAdSAdHAdLLAdZAcVOWEL SIGN AAeIeIIeUeUUeE@11937eAIeO@1193BcSIGN ANUSVARAdCANDRABINDU
dHALANTAcVIRAMAcPREFIXED NASAL SIGNcMEDIAL YAcINITIAL RAcMEDIAL RAcSIGN NUKTAcDOUBLE DANDA
cGAP FILLERcEND OF TEXT MARK@11950cDIGIT ZEROdONEdTWOdTHREEdFOURdFIVEdSIXdSEVENdEIGHTdNINE
@119A0aNANDINAGARI LETTER AcAAcIcIIcUcUUcVOCALIC RdRR@119AAcEcAIcOcAUcKAcKHAcGAcGHAcNGAcCAcCHAcJA
cJHAcNYAcTTAcTTHAcDDAcDDHAcNNAcTAcTHAcDAcDHAcNAcPAcPHAcBAcBHAcMAcYAcRAcLAcVAcSHAcSSAcSAcHAcLLAcRRA
bVOWEL SIGN AAdIdIIdUdUUdVOCALIC ReRR@119DAdEdAIdOdAUbSIGN ANUSVARAcVISARGAcVIRAMAcAVAGRAHA
cSIDDHAMbHEADSTROKEbVOWEL SIGN PRISHTHAMATRA E@11A00aZANABAZAR SQUARE LETTER AcVOWEL SIGN IeUEeUeE
eOEeOeAIeAUeREVERSED IdLENGTH MARKcLETTER KAdKHAdGAdGHAdNGAdCAdCHAdJAdNYAdTTAdTTHAdDDAdDDHAdNNAdTA
dTHAdDAdDHAdNAdPAdPHAdBAdBHAdMAdTSAdTSHAdDZAdDZHAdZHAdZAd-AdYAdRAdLAdVAdSHAdSSAdSAdHAdKSSA
cFINAL CONSONANT MARKcSIGN VIRAMAdCANDRABINDUeWITH ORNAMENTdCANDRA WITH ORNAMENTdANUSVARAdVISARGA
cCLUSTER-INITIAL LETTER RAcCLUSTER-FINAL LETTER YAeRAeLAeVAcINITIAL HEAD MARKcCLOSING HEAD MARK
cMARK TSHEGdSHADdDOUBLE SHADdLONG TSHEGcINITIAL DOUBLE-LINED HEAD MARK
cCLOSING DOUBLE-LINED HEAD MARKcSUBJOINER@11A50aSOYOMBO LETTER AbVOWEL SIGN IdUEdUdEdOdOEdAIdAU
dVOCALIC ReLcLENGTH MARKbLETTER KAcKHAcGAcGHAcNGAcCAcCHAcJAcJHAcNYAcTTAcTTHAcDDAcDDHAcNNAcTAcTHA
cDAcDHAcNAcPAcPHAcBAcBHAcMAcTSAcTSHAcDZAcZHAcZAc-AcYAcRAcLAcVAcSHAcSSAcSAcHAcKSSAbSIGN JIHVAMULIYA
cUPADHMANIYAbCLUSTER-INITIAL LETTER RAdLAdSHAdSAbFINAL CONSONANT SIGN GeKeNGeDeNeBeMeReLeSHeSe-A
bSIGN ANUSVARAcVISARGAbGEMINATION MARKbSUBJOINERbMARK TSHEGcSHADcDOUBLE SHADcPLUTA
bHEAD MARK WITH MOON AND SUN AND TRIPLE FLAMEiFLAMEgSUNbTERMINAL MARK-1cMARK-2
@11AB0aCANADIAN SYLLABICS NATTILIK HIdHIIdHOdHOOdHAdHAAdSHRIdSHRIIdSHROdSHROOdSHRAdSHRAAcSPEcSPI
cSPOcSPAaPAU CIN HAU LETTER PAeKAeLAeMAeDAeZAeVAeNGAeHAeGAeKHAeSAeBAeCAeTAeTHAeNAePHAeRAeFAeCHAeA
eEeIeOeUeUAeIAeFINAL PfKfTfMfNfLfWfNGfYdRISING TONE LONGeTONEdSANDHI GLOTTAL STOP
dRISING TONE LONG FINALfFINALdSANDHI GLOTTAL STOP FINALeTONE LONGeTONEfLONG FINALfFINAL
dMID-LEVEL TONEdGLOTTAL STOP VARIANTdMID-LEVEL TONE LONG FINALfFINALdLOW-FALLING TONE LONGeTONE
dGLOTTAL STOPdLOW-FALLING TONE LONG FINALfFINALdGLOTTAL STOP FINAL@11B00aDEVANAGARI HEAD MARK
dWITH HEADSTROKEbSIGN BHALEdWITH HOOKcEXTENDED BHALEeWITH HOOKcWESTERN FIVE-LIKE BHALE
dNINE-LIKE BHALEcREVERSED NINE-LIKE BHALEcMINDU@11C00aBHAIKSUKI LETTER AcAAcIcIIcUcUUcVOCALIC RdRR
dL@11C0AcEcAIcOcAUcKAcKHAcGAcGHAcNGAcCAcCHAcJAcJHAcNYAcTTAcTTHAcDDAcDDHAcNNAcTAcTHAcDAcDHAcNAcPA
cPHAcBAcBHAcMAcYAcRAcLAcVAcSHAcSSAcSAcHAbVOWEL SIGN AAdIdIIdUdUUdVOCALIC ReRReL@11C38dEdAIdOdAU
bSIGN CANDRABINDUcANUSVARAcVISARGAcVIRAMAcAVAGRAHAbDANDAbDOUBLE DANDAbWORD SEPARATORbGAP FILLER-1
cFILLER-2@11C50bDIGIT ZEROcONEcTWOcTHREEcFOURcFIVEcSIXcSEVENcEIGHTcNINEbNUMBER ONEcTWOcTHREEcFOUR
cFIVEcSIXcSEVENcEIGHTcNINEcTENcTWENTYcTHIRTYcFORTYcFIFTYcSIXTYcSEVENTYcEIGHTYcNINETY
bHUNDREDS UNIT MARK@11C70aMARCHEN HEAD MARKbMARK SHADbLETTER KAcKHAcGAcNGAcCAcCHAcJAcNYAcTAcTHAcDA
cNAcPAcPHAcBAcMAcTSAcTSHAcDZAcWAcZHAcZAc-AcYAcRAcLAcSHAcSAcHAcA@11C92bSUBJOINED LETTER KAdKHAdGA
dNGAdCAdCHAdJAdNYAdTAdTHAdDAdNAdPAdPHAdBAdMAdTSAdTSHAdDZAdWAdZHAdZA@11CA9dYAdRAdLAdSHAdSAdHAdA
bVOWEL SIGN AAdIdUdEdObSIGN ANUSVARAcCANDRABINDU@11D00aMASARAM GONDI LETTER AdAAdIdIIdUdUUdE
@11D08dAIdO@11D0BdAUdKAdKHAdGAdGHAdNGAdCAdCHAdJAdJHAdNYAdTTAdTTHAdDDAdDDHAdNNAdTAdTHAdDAdDHAdNAdPA
dPHAdBAdBHAdMAdYAdRAdLAdVAdSHAdSSAdSAdHAdLLAdKSSAdJNYAdTRAcVOWEL SIGN AAeIeIIeUeUUeVOCALIC R
@11D3AeE@11D3CeAIeO@11D3FeAUcSIGN ANUSVARAdVISARGAdNUKTAdCANDRAdHALANTAcVIRAMAcREPHAcRA-KARA
@11D50cDIGIT ZEROdONEdTWOdTHREEdFOURdFIVEdSIXdSEVENdEIGHTdNINE@11D60aGUNJALA GONDI LETTER AdAAdI
dIIdUdUU@11D67dEEdAI@11D6AdOOdAUdYAdVAdBAdBHAdMAdKAdKHAdTAdTHAdLAdGAdGHAdDAdDHAdNAdCAdCHAdTTAdTTHA
dLLAdJAdJHAdDDAdDDHAdNGAdPAdPHAdHAdRAdSAcVOWEL SIGN AAeIeIIeUeUU@11D90eEEeAI@11D93eOOeAU
cSIGN ANUSVARAdVISARGAcVIRAMAcOM@11DA0cDIGIT ZEROdONEdTWOdTHREEdFOURdFIVEdSIXdSEVENdEIGHTdNINE
@11EE0aMAKASAR LETTER KAcGAcNGAcPAcBAcMAcTAcDAcNAcCAcJAcNYAcYAcRAcLAcVAcSAcAbANGKAbVOWEL SIGN IdU
dEdObPASSIMBANGbEND OF SECTION@11F00aKAWI SIGN CANDRABINDUcANUSVARAcREPHAcVISARGAbLETTER AcAAcIcII
cUcUUcVOCALIC RdRRdLdLLcEcAIcO@11F12cKAcKHAcGAcGHAcNGAcCAcCHAcJAcJHAcNYAcTTAcTTHAcDDAcDDHAcNNAcTA
cTHAcDAcDHAcNAcPAcPHAcBAcBHAcMAcYAcRAcLAcWAcSHAcSSAcSAcHAcJNYAbVOWEL SIGN AAdALTERNATE AAdIdIIdU
dUUdVOCALIC R@11F3EdEdAIdEUbSIGN KILLERbCONJOINERbDANDAbDOUBLE DANDAbPUNCTUATION SECTION MARKER
cALTERNATE SECTION MARKERcFLOWERcSPACE FILLERcDOTcDOUBLE DOTcTRIPLE DOTcCIRCLEcFILLED CIRCLE
cSPIRALcCLOSING SPIRALbDIGIT ZEROcONEcTWOcTHREEcFOURcFIVEcSIXcSEVENcEIGHTcNINE
@11FB0aLISU LETTER YHA@11FC0aTAMIL FRACTION ONE THREE-HUNDRED-AND-TWENTIETH
dONE-HUNDRED-AND-SIXTIETHdEIGHTIETHdSIXTY-FOURTHdFORTIETHdTHIRTY-SECONDcTHREE EIGHTIETHS
dSIXTY-FOURTHScONE TWENTIETHdSIXTEENTH-1dSIXTEENTH-2dTENTHdEIGHTHcTHREE TWENTIETHSdSIXTEENTHS
cONE FIFTHdQUARTERdHALF-1dHALF-2cTHREE QUARTERScDOWNSCALING FACTOR KIIZHbSIGN NELcCEVITUcAAZHAAKKU
cUZHAKKUcMUUVUZHAKKUcKURUNIcPATHAKKUcMUKKURUNIcKAACUcPANAMcPONcVARAAKANcPAARAMcKUZHIcVELI
bWET CULTIVATION SIGNbDRY CULTIVATION SIGNbLAND SIGNbSALT PAN SIGNbTRADITIONAL CREDIT SIGN
cNUMBER SIGNbCURRENT SIGNbAND ODD SIGNbSPENT SIGNbTOTAL SIGNbIN POSSESSION SIGNbSTARTING FROM SIGN
bSIGN MUTHALIYAcVAKAIYARAA@11FFFbPUNCTUATION END OF TEXTaCUNEIFORM SIGN AdTIMES AeBADeGAN2 TENUeHA
eIGIeLAGAR GUNUeMUSHeSAGcA2cABdTIMES ASH2eDUN3 GUNUeGALeGAN2 TENUeHAeIGI GUNUeIMINeLAGABeSHESH
eU PLUS U PLUS UdGUNUcAB2dTIMES BALAGeGAN2 TENUeME PLUS ENeSHA3eTAK4cADcAKdTIMES ERIN2
eSHITA PLUS GISHcALdTIMES ALeDIM2eGISHeHAeKAD3eKIeSHEeUSHcALANcALEPHcAMARdTIMES SHEcANdOVER AN
dTHREE TIMESdPLUS NAGA OPPOSING AN PLUS NAGAfSQUAREDcANSHEcAPINcARADdTIMES KURcARKABcASAL2cASH
dZIDA TENUdKABA TENUdOVER ASH TUG2 OVER TUG2 TUG2 OVER TUG2 PAPfOVER ASH
hCROSSING ASH OVER ASH OVER ASHcASH2cASHGABcBAcBADcBAG3cBAHAR2cBALdOVER BALcBALAGcBARcBARA2cBI
dTIMES AeGAReIGI GUNUcBUdOVER BU ABfUNdCROSSING BUcBULUGdOVER BULUGcBURcBUR2cDAcDAG
dKISIM5 TIMES A PLUS MASHfAMARfBALAGfBIfGAgPLUS MASHfGIfGIR2fGUDfHAfIRgPLUS LUfKAKfLAfLU
gPLUS MASH2fLUMfNEfPAP PLUS PAPfSIfTAK4fU2 PLUS GIR2fUSHcDAMcDARcDARA3cDARA4cDIcDIBcDIMdTIMES SHE
cDIM2cDINdKASKAL U GUNU DISHcDISHcDUdOVER DUdGUNUdSHESHIGcDUBdTIMES ESH2cDUB2cDUGcDUGUDcDUHcDUN
cDUN3dGUNUeGUNUcDUN4cDUR2cEdTIMES PAPdOVER E NUN OVER NUNcE2dTIMES A PLUS HA PLUS DAeGAReMIeSAL
eSHEeUcEDINcEGIRcELcENdTIMES GAN2fTENUeMEdCROSSING ENdOPPOSING ENdSQUAREDcERENcERIN2cESH2cEZEN
dTIMES AfPLUS LALhTIMES LALeANeBADeDUN3 GUNUgGUNUeHAfGUNUeIGI GUNUeKASKALfSQUAREDeKU3eLA
eLAL TIMES LALeLIeLUeU2eUDcGAdGUNUcGA2dTIMES A PLUS DA PLUS HAgHAgIGIeAB2 TENU PLUS TABeANeASH
eASH2 PLUS GALeBADeBAR PLUS RAeBURfPLUS RAeDAeDIeDIM TIMES SHEeDUBeELfPLUS LAeENfTIMES GAN2 TENU
eGAN2 TENUeGAReGIeGI4fPLUS AeGIR2 PLUS SUeHA PLUS LU PLUS ESH2eHALfPLUS LAeHI PLUS LIeHUB2
eIGI GUNUeISH PLUS HU PLUS ASHeKAKeKASKALeKIDfPLUS LALeKU3 PLUS ANeLAeME PLUS ENeMIeNUNfOVER NUN
ePAeSALeSAReSHEfPLUS TUReSHIDeSUMeTAK4eUeUDfPLUS DUdOVER GA2cGABAdCROSSING GABAcGAD
dOVER GAD GAR OVER GARcGALdGAD OVER GAD GAR OVER GARcGALAMcGAMcGANcGAN2dTENUdOVER GAN2
dCROSSING GAN2cGARcGAR3cGASHANcGESHTINdTIMES KURcGIdTIMES EeUdCROSSING GIcGI4dOVER GI4
dCROSSING GI4cGIDIMcGIR2dGUNUcGIR3dTIMES A PLUS IGIeGAN2 TENUeIGIeLU PLUS IGIePAcGISALcGISH
dCROSSING GISHdTIMES BADeTAK4dTENUcGUdCROSSING GUcGU2dTIMES KAKfTIMES IGI GUNUeNUNeSAL PLUS TUG2
dGUNUcGUDdTIMES A PLUS KUReKURdOVER GUD LUGALcGULcGUMdTIMES SHEcGURcGUR7cGURUNcGURUSHcHAdTENUdGUNU
cHALcHIdTIMES ASHeASH2eBADeDISHeGADeKINeNUNeSHEeUcHUcHUB2dTIMES ANeHALeKASKALeLISHeUDcHUL2cIdAcIB
cIDIMdOVER IDIM BURfSQUAREDcIGcIGIdDIBdRIdOVER IGI SHIR OVER SHIR UD OVER UDdGUNUcIL
dTIMES GAN2 TENUcIL2cIMdTIMES TAK4dCROSSING IMdOPPOSING IMdSQUAREDcIMINcINcIRcISHcKAdTIMES AeAD
fPLUS KU3eASH2eBADeBALAGeBAReBIeERIN2eESH2eGAeGALeGAN2 TENUeGARfPLUS SHA3 PLUS AeGIeGIR2
eGISH PLUS SARfCROSSING GISHeGUeGUR7eIGIeIMeKAKeKIeKIDeLIeLUeMEfPLUS DUgGIgTEeMIfPLUS NUNUZeNEeNUN
ePIeRUeSAeSAReSHAeSHEeSHIDeSHUeSIGeSUHUReTAReUeU2eUDeUMUM TIMES PAeUSHeZIcKA2dCROSSING KA2cKAB
cKAD2cKAD3cKAD4cKAD5dOVER KAD5cKAKdTIMES IGI GUNUcKALdTIMES BADdCROSSING KALcKAM2cKAM4cKASKAL
dLAGAB TIMES U OVER LAGAB TIMES UdOVER KASKAL LAGAB TIMES U OVER LAGAB TIMES UcKESH2cKIdTIMES BAD
eUeUDcKIDcKINcKISALcKISHcKISIM5dOVER KISIM5cKUdOVER HI TIMES ASH2 KU OVER HI TIMES ASH2cKU3cKU4
dVARIANT FORMcKU7cKULdGUNUcKUNcKURdOPPOSING KURcKUSHU2cKWU318cLAcLAGABdTIMES AfPLUS DA PLUS HAgGAR
gLALeALeANeASH ZIDA TENUeBADeBIeDAReENeGAeGAReGUDfPLUS GUDeHAeHALeHI TIMES NUNeIGI GUNUeIMfPLUS HA
gLUeKIeKINeKU3eKULfPLUS HI PLUS AeLAGABeLISHeLUeLULeMEfPLUS ENeMUSHeNEeSHE PLUS SUM
eSHITA PLUS GISH PLUS ERIN2hTENUeSHU2fPLUS SHU2eSUMeTAGeTAK4eTE PLUS A PLUS SU PLUS NAeUfPLUS A
gU PLUS UeU2 PLUS ASHeUDeUSHdSQUAREDcLAGARdTIMES SHEfPLUS SUMdGUNUeOVER LAGAR GUNU SHEcLAHSHUcLAL
dTIMES LALcLAMdTIMES KURfPLUS RUcLIcLILcLIMMU2cLISHcLUdTIMES BADcLU2dTIMES ALeBADeESH2fTENU
eGAN2 TENUeHI TIMES BADeIMeKAD2eKAD3fPLUS ASHeKIeLA PLUS ASHeLAGABeME PLUS ENeNEeNUeSI PLUS ASH
eSIK2 PLUS BUeTUG2dTENUdCROSSING LU2dOPPOSING LU2dSQUAREDdSHESHIGcLU3cLUGALdOVER LUGAL
dOPPOSING LUGALdSHESHIGcLUHcLULcLUMdOVER LUMfGAR OVER GARcMAdTIMES TAK4dGUNUcMA2cMAHcMARcMASH
cMASH2cMEcMEScMIcMINcMUdOVER MUcMUGdGUNUcMUNSUBcMURGU2cMUSHdTIMES AeKUReZAdOVER MUSH
fTIMES A PLUS NAdCROSSING MUSHcMUSH3dTIMES AfPLUS DIeDIdGUNUcNAcNA2cNAGAdINVERTEDdTIMES SHU TENU
dOPPOSING NAGAcNAGARcNAM NUTILLUcNAMcNAM2cNEdTIMES AeUDdSHESHIGcNIdTIMES EcNI2cNIMdTIMES GAN2 TENU
eGAR PLUS GAN2 TENUcNINDA2dTIMES ANeASHfPLUS ASHeGUDeME PLUS GAN2 TENUeNEeNUNeSHEfPLUS A ANgASH
hPLUS ASHeU2 PLUS ASHeUSHcNISAGcNUcNU11cNUNdLAGAR TIMES GARfMASHfSALgOVER NUN LAGAR TIMES SALfUSH
dTENUdOVER NUNdCROSSING NUNfLAGAR OVER LAGARcNUNUZdAB2 TIMES ASHGABfBIfDUGfGUDfIGI GUNUfKAD3fLAfNE
fSILA3fU2dKISIM5 TIMES BIgUcPAcPADcPANcPAPcPESH2cPIdTIMES AeABeBIeBUeEeIeIBeUeU2dCROSSING PIcPIRIG
dTIMES KALeUDeZAdOPPOSING PIRIGcRAcRABcRIcRUcSAcSAG NUTILLUcSAGdTIMES AeDUeDUBeHAeKAKeKUReLUMeMI
eNUNeSALeSHIDeTABeU2eUBeUMeUReUSHdOVER SAGdGUNUcSALdLAGAB TIMES ASH2cSANGA2cSARcSHAcSHA3dTIMES A
eBADeGISHeNEeSHU2eTUReUfPLUS AcSHA6cSHAB6cSHAR2cSHEdHUdOVER SHE GAD OVER GAD GAR OVER GAR
fTAB OVER TAB GAR OVER GARcSHEG9cSHENcSHESHcSHESH2cSHESHLAMcSHIDdTIMES AeIMcSHIMdTIMES AeBALeBULUG
eDINeGAReIGIfGUNUeKUSHU2eLULeMUGeSALcSHINIGcSHIRdTENUdOVER SHIR BUR OVER BURcSHITAcSHU
dOVER INVERTED SHUcSHU2cSHUBURcSIdGUNUcSIGcSIG4dOVER SIG4 SHU2cSIK2cSILA3cSUdOVER SUcSUDcSUD2
cSUHURcSUMcSUMASHcSURcSUR9cTAdASTERISKdTIMES HIeMIdGUNUcTABdOVER TAB NI OVER NI DISH OVER DISH
dSQUAREDcTAGdTIMES BIeGUDeSHEeSHUeTUG2eUDcTAK4cTARcTEdGUNUcTIdTENUcTILcTIRdTIMES TAK4dOVER TIR
fGAD OVER GAD GAR OVER GARcTUcTUG2cTUKcTUMcTURdOVER TUR ZA OVER ZAcUdGUDdU U
dOVER U PA OVER PA GAR OVER GARfSUR OVER SURfU REVERSED OVER U REVERSEDcU2cUBcUDdKUSHU2dTIMES BAD
eMIeU PLUS U PLUS UjGUNUdGUNUdSHESHIGeTIMES BADcUDUGcUMdTIMES LAGABeME PLUS DAeSHA3eUcUMBINcUMUM
dTIMES KASKALePAcUNdGUNUcURdCROSSING URdSHESHIGcUR2dTIMES A PLUS HAgNAeALeHAeNUNeU2fPLUS ASHgBI
cUR4cURIcURI3cURUdTIMES AeASHGABeBAReDUNeGAeGALeGAN2 TENUeGAReGUeHAeIGIeIMeISHeKIeLUMeMINePAeSHE
eSIG4eTUeU PLUS GUDeUDeURUDAcURUDAdTIMES UcUSHdTIMES AeKUeKUReTAK4cUSHXcUSH2cUSHUMXcUTUKIcUZ3
dTIMES KASKALcUZUcZAdTENUdSQUARED TIMES KURcZAGcZAMXcZE2cZIdOVER ZIcZI3cZIBdKABA TENUcZIGcZIZ2cZU
cZU5dTIMES AcZUBURcZUMcKAP ELAMITEcAB TIMES NUNcAB2 TIMES AcAMAR TIMES KUG
cDAG KISIM5 TIMES U2 PLUS MASHcDAG3cDISH PLUS SHUcDUB TIMES SHEcEZEN TIMES GUDeSHE
cGA2 TIMES AN PLUS KAK PLUS AeASH2cGE22cGIGcHUSHcKA TIMES ANSHEeASH3eGISHeGUDeHI TIMES ASH2eLUMePA
eSHULeTUeUR2cLAGAB TIMES GIcLU2 SHESHIG TIMES BADdTIMES ESH2 PLUS LALeSHUcMESHcMUSH3 TIMES ZAcNA4
cNINcNIN9cNINDA2 TIMES BALeGIcNU11 ROTATED NINETY DEGREEScPESH2 ASTERISKcPIR2cSAG TIMES IGI GUNU
cTI2cUM TIMES MEcU U@12400bNUMERIC SIGN TWO ASHdTHREE ASHdFOUR ASHdFIVE ASHdSIX ASHdSEVEN ASH
dEIGHT ASHdNINE ASHdTHREE DISHdFOUR DISHdFIVE DISHdSIX DISHdSEVEN DISHdEIGHT DISHdNINE DISHdFOUR U
dFIVE UdSIX UdSEVEN UdEIGHT UdNINE UdONE GESH2dTWO GESH2dTHREE GESH2dFOUR GESH2dFIVE GESH2
dSIX GESH2dSEVEN GESH2dEIGHT GESH2dNINE GESH2dONE GESHUdTWO GESHUdTHREE GESHUdFOUR GESHU
dFIVE GESHUdTWO SHAR2dTHREE SHAR2fVARIANT FORMdFOUR SHAR2dFIVE SHAR2dSIX SHAR2dSEVEN SHAR2
dEIGHT SHAR2dNINE SHAR2dONE SHARUdTWO SHARUdTHREE SHARUfVARIANT FORMdFOUR SHARUdFIVE SHARU
dSHAR2 TIMES GAL PLUS DISHhMINdONE BURUdTWO BURUdTHREE BURUfVARIANT FORMdFOUR BURUdFIVE BURU
dTHREE VARIANT FORM ESH16gESH21dFOUR VARIANT FORM LIMMUgLIMMU4gLIMMU AhBdSIX VARIANT FORM ASH9
dSEVEN VARIANT FORM IMIN3gIMIN AhBdEIGHT VARIANT FORM USSUgUSSU3dNINE VARIANT FORM ILIMMUgILIMMU3
gILIMMU4gILIMMU AdTWO ASH TENUdTHREE ASH TENUdFOUR ASH TENUdFIVE ASH TENUdSIX ASH TENUdONE BAN2
dTWO BAN2dTHREE BAN2dFOUR BAN2fVARIANT FORMdFIVE BAN2fVARIANT FORMdNIGIDAMINdNIGIDAESHdONE ESHE3
dTWO ESHE3dONE THIRD DISHdTWO THIRDS DISHdFIVE SIXTHS DISHdONE THIRD VARIANT FORM A
dTWO THIRDS VARIANT FORM AdONE EIGHTH ASHeQUARTER ASHdOLD ASSYRIAN ONE SIXTHgQUARTER
dONE QUARTER GUReHALF GURdELAMITE ONE THIRDeTWO THIRDSeFORTYeFIFTYdFOUR U VARIANT FORM
dFIVE U VARIANT FORMdSIX U VARIANT FORMdSEVEN U VARIANT FORMdEIGHT U VARIANT FORM
dNINE U VARIANT FORM@12470bPUNCTUATION SIGN OLD ASSYRIAN WORD DIVIDERdVERTICAL COLON
dDIAGONAL COLONeTRICOLONeQUADCOLON@12480bSIGN AB TIMES NUN TENUeSHU2cAD TIMES ESH2
cBAD TIMES DISH TENUcBAHAR2 TIMES AB2eNIeZAcBU OVER BU TIMES NA2cDA TIMES TAK4cDAG TIMES KUR
cDIM TIMES IGIeU U UcDIM2 TIMES UDcDUG TIMES ANSHEeASHfAT LEFTeDINeDUNeERIN2eGAeGIeGIR2 GUNUeGISH
eHAeHIeIGI GUNUeKASKALeKUReKUSHU2fPLUS KASKALeLAK-020eLAMfTIMES KUReLUH PLUS GISHeMASHeMESeMIeNI
ePIeSHEeSI GUNUcE2 TIMES KURePAPcERIN2 XcESH2 CROSSING ESH2cEZEN SHESHIG TIMES ASHfHIfIGI GUNUfLA
fLALfMEfMESfSUdTIMES SUcGA2 TIMES BAHAR2eDIM GUNUeDUG TIMES IGI GUNUgKASKALeERENeGAeGAR PLUS DIgNE
eHA PLUS AeKUSHU2 PLUS KASKALeLAMfTIMES KUReLUHeMUSHeNEfPLUS E2gGIeSHIMeZIZ2
cGABA ROTATED NINETY DEGREEScGESHTIN TIMES UcGISH TIMES GISH CROSSING GISHcGU2 TIMES IGI GUNU
cGUD PLUS GISH TIMES TAK4cHA TENU GUNUcHI TIMES ASH OVER HI TIMES ASHcKA TIMES BUeKAeU U UeUR
cLAGAB TIMES ZU OVER ZUcLAK-003cLAK-021cLAK-025cLAK-030cLAK-050cLAK-051cLAK-062
cLAK-079 OVER LAK-079 GUNUcLAK-080cLAK-081 OVER LAK-081cLAK-092cLAK-130cLAK-142cLAK-210cLAK-219
cLAK-220cLAK-225cLAK-228cLAK-238cLAK-265cLAK-266cLAK-343cLAK-347cLAK-348cLAK-383cLAK-384cLAK-390
cLAK-441cLAK-449dTIMES GUeIGIePAP PLUS LU3gPAP PLUS LU3eU2 PLUS BAcLAK-450cLAK-457cLAK-470cLAK-483
cLAK-490cLAK-492cLAK-493cLAK-495cLAK-550cLAK-608cLAK-617dTIMES ASHeBADeDUN3 GUNU GUNUeKU3eLAeTAR
eTEeU2eUDeURUDAcLAK-636cLAK-648dTIMES DUBeGAeIGIfGUNUeNIePAP PLUS PAP PLUS LU3eSHESH PLUS KIeUD
eURUDAcLAK-724cLAK-749cLU2 GUNU TIMES ASHdTIMES DISHeHALePAPfPLUS PAP PLUS LU3eTAK4cMI PLUS ZA7
cMUSH OVER MUSH TIMES GAgKAKcNINDA2 TIMES DIM GUNUeGISHeGULeHIeKESH2eLAK-050eMASHePAP PLUS PAPeU
fPLUS UeURUDAcSAG GUNU TIMES HAdTIMES ENeSHE AT LEFTeTAK4cSHA6 TENUcSHE OVER SHEdPLUS HUB2eNAM2
eSARcSHU2 PLUS DUG TIMES NIeE2 TIMES ANcSI TIMES TAK4cTAK4 PLUS SAGcTUM TIMES GAN2 TENUeTHREE DISH
cUR2 INVERTEDdTIMES UDcURU TIMES DARA3eLAK-668eLU3cZA7cZU OVER ZU PLUS SAR
cZU5 TIMES THREE DISH TENU@12F90aCYPRO-MINOAN SIGN CM001cCM002cCM004cCM005cCM006cCM007cCM008cCM009
cCM010cCM011cCM012cCM012BcCM013cCM015cCM017cCM019cCM021cCM023cCM024cCM025cCM026cCM027cCM028cCM029
cCM030cCM033cCM034cCM035cCM036cCM037cCM038cCM039cCM040cCM041cCM044cCM046cCM047cCM049cCM050cCM051
cCM052cCM053cCM054cCM055cCM056cCM058cCM059cCM060cCM061cCM062cCM063cCM064cCM066cCM067cCM068cCM069
cCM070cCM071cCM072cCM073cCM074cCM075cCM075BcCM076cCM078cCM079cCM080cCM081cCM082cCM083cCM084cCM085
cCM086cCM087cCM088cCM089cCM090cCM091cCM092cCM094cCM095cCM096cCM097cCM098cCM099cCM100cCM101cCM102
cCM103cCM104cCM105cCM107cCM108cCM109cCM110cCM112cCM114cCM301cCM302@13000aEGYPTIAN HIEROGLYPH A001
cA002cA003cA004cA005cA005AcA006cA006AcA006BcA007cA008cA009cA010cA011cA012cA013cA014cA014AcA015
cA016cA017cA017AcA018cA019cA020cA021cA022cA023cA024cA025cA026cA027cA028cA029cA030cA031cA032cA032A
cA033cA034cA035cA036cA037cA038cA039cA040cA040AcA041cA042cA042AcA043cA043AcA044cA045cA045AcA046
cA047cA048cA049cA050cA051cA052cA053cA054cA055cA056cA057cA058cA059cA060cA061cA062cA063cA064cA065
cA066cA067cA068cA069cA070cB001cB002cB003cB004cB005cB005AcB006cB007cB008cB009cC001cC002cC002AcC002B
cC002CcC003cC004cC005cC006cC007cC008cC009cC010cC010AcC011cC012cC013cC014cC015cC016cC017cC018cC019
cC020cC021cC022cC023cC024cD001cD002cD003cD004cD005cD006cD007cD008cD008AcD009cD010cD011cD012cD013
cD014cD015cD016cD017cD018cD019cD020cD021cD022cD023cD024cD025cD026cD027cD027AcD028cD029cD030cD031
cD031AcD032cD033cD034cD034AcD035cD036cD037cD038cD039cD040cD041cD042cD043cD044cD045cD046cD046AcD047
cD048cD048AcD049cD050cD050AcD050BcD050CcD050DcD050EcD050FcD050GcD050HcD050IcD051cD052cD052AcD053
cD054cD054AcD055cD056cD057cD058cD059cD060cD061cD062cD063cD064cD065cD066cD067cD067AcD067BcD067C
cD067DcD067EcD067FcD067GcD067HcE001cE002cE003cE004cE005cE006cE007cE008cE008AcE009cE009AcE010cE011
cE012cE013cE014cE015cE016cE016AcE017cE017AcE018cE019cE020cE020AcE021cE022cE023cE024cE025cE026cE027
cE028cE028AcE029cE030cE031cE032cE033cE034cE034AcE036cE037cE038cF001cF001AcF002cF003cF004cF005cF006
cF007cF008cF009cF010cF011cF012cF013cF013AcF014cF015cF016cF017cF018cF019cF020cF021cF021AcF022cF023
cF024cF025cF026cF027cF028cF029cF030cF031cF031AcF032cF033cF034cF035cF036cF037cF037AcF038cF038AcF039
cF040cF041cF042cF043cF044cF045cF045AcF046cF046AcF047cF047AcF048cF049cF050cF051cF051AcF051BcF051C
cF052cF053cG001cG002cG003cG004cG005cG006cG006AcG007cG007AcG007BcG008cG009cG010cG011cG011AcG012
cG013cG014cG015cG016cG017cG018cG019cG020cG020AcG021cG022cG023cG024cG025cG026cG026AcG027cG028cG029
cG030cG031cG032cG033cG034cG035cG036cG036AcG037cG037AcG038cG039cG040cG041cG042cG043cG043AcG044cG045
cG045AcG046cG047cG048cG049cG050cG051cG052cG053cG054cH001cH002cH003cH004cH005cH006cH006AcH007cH008
cI001cI002cI003cI004cI005cI005AcI006cI007cI008cI009cI009AcI010cI010AcI011cI011AcI012cI013cI014
cI015cK001cK002cK003cK004cK005cK006cK007cK008cL001cL002cL002AcL003cL004cL005cL006cL006AcL007cL008
cM001cM001AcM001BcM002cM003cM003AcM004cM005cM006cM007cM008cM009cM010cM010AcM011cM012cM012AcM012B
cM012CcM012DcM012EcM012FcM012GcM012HcM013cM014cM015cM015AcM016cM016AcM017cM017AcM018cM019cM020
cM021cM022cM022AcM023cM024cM024AcM025cM026cM027cM028cM028AcM029cM030cM031cM031AcM032cM033cM033A
cM033BcM034cM035cM036cM037cM038cM039cM040cM040AcM041cM042cM043cM044cN001cN002cN003cN004cN005cN006
cN007cN008cN009cN010cN011cN012cN013cN014cN015cN016cN017cN018cN018AcN018BcN019cN020cN021cN022cN023
cN024cN025cN025AcN026cN027cN028cN029cN030cN031cN032cN033cN033AcN034cN034AcN035cN035AcN036cN037
cN037AcN038cN039cN040cN041cN042cNL001cNL002cNL003cNL004cNL005cNL005AcNL006cNL007cNL008cNL009cNL010
cNL011cNL012cNL013cNL014cNL015cNL016cNL017cNL017AcNL018cNL019cNL020cNU001cNU002cNU003cNU004cNU005
cNU006cNU007cNU008cNU009cNU010cNU010AcNU011cNU011AcNU012cNU013cNU014cNU015cNU016cNU017cNU018
cNU018AcNU019cNU020cNU021cNU022cNU022AcO001cO001AcO002cO003cO004cO005cO005AcO006cO006AcO006BcO006C
cO006DcO006EcO006FcO007cO008cO009cO010cO010AcO010BcO010CcO011cO012cO013cO014cO015cO016cO017cO018
cO019cO019AcO020cO020AcO021cO022cO023cO024cO024AcO025cO025AcO026cO027cO028cO029cO029AcO030cO030A
cO031cO032cO033cO033AcO034cO035cO036cO036AcO036BcO036CcO036DcO037cO038cO039cO040cO041cO042cO043
cO044cO045cO046cO047cO048cO049cO050cO050AcO050BcO051cP001cP001AcP002cP003cP003AcP004cP005cP006
cP007cP008cP009cP010cP011cQ001cQ002cQ003cQ004cQ005cQ006cQ007cR001cR002cR002AcR003cR003AcR003BcR004
cR005cR006cR007cR008cR009cR010cR010AcR011cR012cR013cR014cR015cR016cR016AcR017cR018cR019cR020cR021
cR022cR023cR024cR025cR026cR027cR028cR029cS001cS002cS002AcS003cS004cS005cS006cS006AcS007cS008cS009
cS010cS011cS012cS013cS014cS014AcS014BcS015cS016cS017cS017AcS018cS019cS020cS021cS022cS023cS024cS025
cS026cS026AcS026BcS027cS028cS029cS030cS031cS032cS033cS034cS035cS035AcS036cS037cS038cS039cS040cS041
cS042cS043cS044cS045cS046cT001cT002cT003cT003AcT004cT005cT006cT007cT007AcT008cT008AcT009cT009A
cT010cT011cT011AcT012cT013cT014cT015cT016cT016AcT017cT018cT019cT020cT021cT022cT023cT024cT025cT026
cT027cT028cT029cT030cT031cT032cT032AcT033cT033AcT034cT035cT036cU001cU002cU003cU004cU005cU006cU006A
cU006BcU007cU008cU009cU010cU011cU012cU013cU014cU015cU016cU017cU018cU019cU020cU021cU022cU023cU023A
cU024cU025cU026cU027cU028cU029cU029AcU030cU031cU032cU032AcU033cU034cU035cU036cU037cU038cU039cU040
cU041cU042cV001cV001AcV001BcV001CcV001DcV001EcV001FcV001GcV001HcV001IcV002cV002AcV003cV004cV005
cV006cV007cV007AcV007BcV008cV009cV010cV011cV011AcV011BcV011CcV012cV012AcV012BcV013cV014cV015cV016
cV017cV018cV019cV020cV020AcV020BcV020CcV020DcV020EcV020FcV020GcV020HcV020IcV020JcV020KcV020LcV021
cV022cV023cV023AcV024cV025cV026cV027cV028cV028AcV029cV029AcV030cV030AcV031cV031AcV032cV033cV033A
cV034cV035cV036cV037cV037AcV038cV039cV040cV040AcW001cW002cW003cW003AcW004cW005cW006cW007cW008cW009
cW009AcW010cW010AcW011cW012cW013cW014cW014AcW015cW016cW017cW017AcW018cW018AcW019cW020cW021cW022
cW023cW024cW024AcW025cX001cX002cX003cX004cX004AcX004BcX005cX006cX006AcX007cX008cX008AcY001cY001A
cY002cY003cY004cY005cY006cY007cY008cZ001cZ002cZ002AcZ002BcZ002CcZ002DcZ003cZ003AcZ003BcZ004cZ004A
cZ005cZ005AcZ006cZ007cZ008cZ009cZ010cZ011cZ012cZ013cZ014cZ015cZ015AcZ015BcZ015CcZ015DcZ015EcZ015F
cZ015GcZ015HcZ015IcZ016cZ016AcZ016BcZ016CcZ016DcZ016EcZ016FcZ016GcZ016HcAA001cAA002cAA003cAA004
cAA005cAA006cAA007cAA007AcAA007BcAA008cAA009cAA010cAA011cAA012cAA013cAA014cAA015cAA016cAA017cAA018
cAA019cAA020cAA021cAA022cAA023cAA024cAA025cAA026cAA027cAA028cAA029cAA030cAA031cAA032cV011D
cVERTICAL JOINERcHORIZONTAL JOINERcINSERT AT TOP STARTeBOTTOM STARTeTOP ENDeBOTTOM END
cOVERLAY MIDDLEcBEGIN SEGMENTcEND SEGMENTcINSERT AT MIDDLEeTOPeBOTTOMcBEGIN ENCLOSURE
cEND ENCLOSUREcBEGIN WALLED ENCLOSUREcEND WALLED ENCLOSUREcMIRROR HORIZONTALLYcFULL BLANK
cHALF BLANKcLOST SIGNcHALF LOST SIGNcTALL LOST SIGNcWIDE LOST SIGNcMODIFIER DAMAGED AT TOP START
fBOTTOM STARTfSTARTfTOP ENDfTOPfBOTTOM START AND TOP ENDfSTART AND TOPfBOTTOM END
fTOP START AND BOTTOM ENDfBOTTOMfSTART AND BOTTOMfENDfTOP AND ENDfBOTTOM AND ENDdDAMAGED
@14400aANATOLIAN HIEROGLYPH A001cA002cA003cA004cA005cA006cA007cA008cA009cA010cA010AcA011cA012cA013
cA014cA015cA016cA017cA018cA019cA020cA021cA022cA023cA024cA025cA026cA026AcA027cA028cA029cA030cA031
cA032cA033cA034cA035cA036cA037cA038cA039cA039AcA040cA041cA041AcA042cA043cA044cA045cA045AcA046
cA046AcA046BcA047cA048cA049cA050cA051cA052cA053cA054cA055cA056cA057cA058cA059cA060cA061cA062cA063
cA064cA065cA066cA066AcA066BcA066CcA067cA068cA069cA070cA071cA072cA073cA074cA075cA076cA077cA078cA079
cA080cA081cA082cA083cA084cA085cA086cA087cA088cA089cA090cA091cA092cA093cA094cA095cA096cA097cA097A
cA098cA098AcA099cA100cA100AcA101cA101AcA102cA102AcA103cA104cA104AcA104BcA104CcA105cA105AcA105B
cA106cA107cA107AcA107BcA107CcA108cA109cA110cA110AcA110BcA111cA112cA113cA114cA115cA115AcA116cA117
cA118cA119cA120cA121cA122cA123cA124cA125cA125AcA126cA127cA128cA129cA130cA131cA132cA133cA134cA135
cA135AcA136cA137cA138cA139cA140cA141cA142cA143cA144cA145cA146cA147cA148cA149cA150cA151cA152cA153
cA154cA155cA156cA157cA158cA159cA160cA161cA162cA163cA164cA165cA166cA167cA168cA169cA170cA171cA172
cA173cA174cA175cA176cA177cA178cA179cA180cA181cA182cA183cA184cA185cA186cA187cA188cA189cA190cA191
cA192cA193cA194cA195cA196cA197cA198cA199cA200cA201cA202cA202AcA202BcA203cA204cA205cA206cA207cA207A
cA208cA209cA209AcA210cA211cA212cA213cA214cA215cA215AcA216cA216AcA217cA218cA219cA220cA221cA222cA223
cA224cA225cA226cA227cA227AcA228cA229cA230cA231cA232cA233cA234cA235cA236cA237cA238cA239cA240cA241
cA242cA243cA244cA245cA246cA247cA248cA249cA250cA251cA252cA253cA254cA255cA256cA257cA258cA259cA260
cA261cA262cA263cA264cA265cA266cA267cA267AcA268cA269cA270cA271cA272cA273cA274cA275cA276cA277cA278
cA279cA280cA281cA282cA283cA284cA285cA286cA287cA288cA289cA289AcA290cA291cA292cA293cA294cA294AcA295
cA296cA297cA298cA299cA299AcA300cA301cA302cA303cA304cA305cA306cA307cA308cA309cA309AcA310cA311cA312
cA313cA314cA315cA316cA317cA318cA319cA320cA321cA322cA323cA324cA325cA326cA327cA328cA329cA329AcA330
cA331cA332AcA332BcA332CcA333cA334cA335cA336cA336AcA336BcA336CcA337cA338cA339cA340cA341cA342cA343
cA344cA345cA346cA347cA348cA349cA350cA351cA352cA353cA354cA355cA356cA357cA358cA359cA359AcA360cA361
cA362cA363cA364cA364AcA365cA366cA367cA368cA368AcA369cA370cA371cA371AcA372cA373cA374cA375cA376cA377
cA378cA379cA380cA381cA381AcA382cA383 RA OR RIcA383AcA384cA385cA386cA386AcA387cA388cA389cA390cA391
cA392cA393 EIGHTcA394cA395cA396cA397cA398cA399cA400cA401cA402cA403cA404cA405cA406cA407cA408cA409
cA410 BEGIN LOGOGRAM MARKcA410A END LOGOGRAM MARKcA411cA412cA413cA414cA415cA416cA417cA418cA419
cA420cA421cA422cA423cA424cA425cA426cA427cA428cA429cA430cA431cA432cA433cA434cA435cA436cA437cA438
cA439cA440cA441cA442cA443cA444cA445cA446cA447cA448cA449cA450cA450AcA451cA452cA453cA454cA455cA456
cA457cA457AcA458cA459cA460cA461cA462cA463cA464cA465cA466cA467cA468cA469cA470cA471cA472cA473cA474
cA475cA476cA477cA478cA479cA480cA481cA482cA483cA484cA485cA486cA487cA488cA489cA490cA491cA492cA493
cA494cA495cA496cA497cA501cA502cA503cA504cA505cA506cA507cA508cA509cA510cA511cA512cA513cA514cA515
cA516cA517cA518cA519cA520cA521cA522cA523cA524cA525cA526cA527cA528cA529cA530
@16800aBAMUM LETTER PHASE-A NGKUE MFONdGBIEE FONdPON MFON PIPAEMGBIEEfPIPAEMBAdNAA MFONdSHUENSHUET
dTITA MFONdNZA MFONdSHINDA PA NJIdPON PA NJI PIPAEMGBIEEgPIPAEMBAdMAEMBGBIEEdTU MAEMBAdNGANGU
dMAEMVEUXdMANSUAEdMVEUAENGAMdSEUNYAMdNTOQPENdKEUKEUTNDAdNKINDIdSUUdNGKUENZEUMdLAPAQdLET KUT
dNTAP MFAAdMAEKEUPdPASHAEdGHEUAERAEdPAMSHAEdMON NGGEUAETdNZUN MEUTdU YUQ NAEdGHEUAEGHEUAE
dNTAP NTAAdSISAdMGBASAdMEUNJOMNDEUQdMOOMPUQdKAFAdPA LEERAEWAdNDA LEERAEWAdPETdMAEMKPENdNIKAdPUP
dTUAEPdLUAEPdSONJAMdTEUTEUWENdMAENYIdKETdNDAANGGEUAETdKUOQdMOOMEUTdSHUMdLOMMAEdFIRIdROMdKPOQdSOQ
dMAP PIEETdSHIRAEdNTAPdSHOQ NSHUT YUMdNYIT MONGKEUAEQdPAARAEdNKAARAEdUNKNOWNdNGGENdMAESIdNJAM
dMBANYIdNYETdTEUAENdSOTdPAAMdNSHIEEdMAEMdNYIdKAQdNSHAdVEEdLUdNENdNAQdMBAQcPHASE-B NSHUET
dTU MAEMGBIEEdSIEEdSET TUdLOM NTEUMdMBA MAELEEdKIEEMdYEURAEdMBAARAEdKAMdPEESHIdYAFU LEERAEWA
dLAM NSHUT NYAMdNTIEE SHEUOQdNDU NJAAdGHEUGHEUAEMdPITdTU NSIEEdSHET NJAQdSHEUAEQTUdMFON TEUAEQ
dMBIT MBAAKETdNYI NTEUMdKEUPUQdGHEUGHENdKEUYEUXdLAANAEdPARUMdVEUMdNGKINDI MVOPdNGGEU MBUdWUAET
dSAKEUAEdTAAMdMEUQdNGGUOQeLARGEdMFIYAQdSUEdMBEURIdMONTIEENdNYAEMAEdPUNGAAMdMEUT NGGEETdFEUXdMBUOQ
dFEEdKEUAEMdMA NJEUAENAeNJUQAdLETdNGGAAMdNSENdMAdKIQdNGOMcPHASE-C NGKUE MAEMBAdNZAdYUMdWANGKUOQ
dNGGENdNDEUAEREEdNGKAQdGHARAEdMBEEKEETdGBAYIdNYIR MKPARAQ MEUNdNTU MBITdMBEUMdPIRIEENdNDOMBU
dMBAA CABBAGE-TREEdKEUSHEUAEPdGHAPdKEUKAQdYU MUOMAEdNZEUMdMBUEdNSEUAENdMBITdYEUQdKPARAQdKAAdSEUX
dNDIDAdTAASHAEdNJUEQdTITA YUEdSUAETdNGGUAEN NYAMdVEUXdNANSANAQdMA KEUAERIdNTAAdNGGUONdLAPdMBIRIEEN
dMGBASAQdNTEUNGBAdTEUTEUXdNGGUMdFUEdNDEUTdNSAdNSHAQdBUNGdVEUAEPENdMBERAEdRUdNJAEMdLAMdTITUAEP
dNSUOT NGOMdNJEEEEdKETdNGGUdMAESIdMBUAEMdLUdKUTdNJAMdNGOMdWUPdNGGUEETdNSOMdNTENdKUOP NKAARAEdNSUN
dNDAMdMA NSIEEdYAAdNDAPdSHUEQdSETFONdMBIdMAEMBAdMBANYIdKEUSEUXdMBEUXdKEUMdMBAA PICKETdYUWOQdNJEUX
dMIEEdMUAEdSHIQdKEN LAWeFATIGUEdNGAQdNAQdLIQdPINdPENdTETcPHASE-D MBUOdWAPdNJIdMFONdNJIEEdLIEE
dNJEUTdNSHEEdNGGAAMAEdNYAMdWUAENdNGKUNdSHEEdNGKAPdKEUAETMEUNdTEUTdSHEUAEdNJAPdSUEdKETdYAEMMAEdKUOM
dSAPdMFEUTdNDEUXdMALEERIdMEUTdSEUAEQdYENdNJEUAEMdKEUOT MBUAEdNGKEURIdTUdGHAAdNGKYEEdFEUFEUAETdNDEE
dMGBOFUMdLEUAEPdNDONdMONIdMGBEUNdPUUTdMGBIEEdMFOdLUMdNSIEEPdMBAAdKWAETdNYETdTEUAENdSOTdYUWOQdKEUM
dRAEMdTEEEEdNGKEUAEQdMFEUAEdNSIEETdKEUPdPIPdPEUTAEdNYUEdLETdNGGAAMdMFIEEdNGGWAENdYUOMdPAPdYUOP
dNDAMdNTEUMdSUAEdKUNdNGGEUXdNGKIEEdTUOTdMEUNdKUQdNSUMdTEUNdMAENJETdNGGAPdLEUMdNGGUOMdNSHUTdNJUEQ
dGHEUAEdKUdREN OLDdTAEdTOQdNYIdRIIdLEEEEdMEEEEdMdSUUdMUdSHIIdSHEUXdKYEEdNUdSHUdNTEEdPEEdNIdSHOQ
dPUQdMVOPdLOQdREN MUCHdTIdNTUUdMBAA SEVENdSAQdFAAcPHASE-E NDAPdTOONdMBEUMdLAPdVOMdLOONdPAAdSOMdRAQ
dNSHUOPdNDUNdPUAEdTAMdNGKAdKPEUXdWUOdSEEdNGGEUAETdPAAMdTOOdKUOPdLOMdNSHIEEdNGOPdMAEMdNGKEUXdNGOQ
dNSHUEdRIMGBAdNJEUXdPEEMdSAAdNGGURAEdMGBAdGHEUXdNGKEUAEMdNJAEMLIdMAPdLOOTdNGGEEEEdNDIQdTAEN NTEUM
dSETdPUMdNDAA SOFTNESSdNGGUAESHAE NYAMdYIEEdGHEUNdTUAEdYEUAEdPOdTUMAEdKEUAEdSUAENdTEUAEQdVEUAE
dWEUXdLAAMdPUdTAAQdGHAAMAEdNGEUREUTdSHEUAEQdMGBENdMBEEdNZAQdNKOMdGBETdTUMdKUETdYAPdNYI CLEAVERdYIT
dMFEUQdNDIAQdPIEEQdYUEQdLEUAEMdFUEdGBEUXdNGKUPdKETdMAEdNGKAAMIdGHETdFAdNTUMdPEUTdYEUMdNGGEUAE
dNYI BETWEENdNZUQdPOONdMIEEdFUETdNAEdMUAEdGHEUAEdFU IdMVIdPUAQdNGKUMdKUTdPIETdNTAPdYEUAETdNGGUP
dPA PEOPLEdFU CALLdFOMdNJEEdAdTOQdOdIdLAQdPA PLURALdTAAdTAQdNDAA MY HOUSEdSHIQdYEUXdNGUAEdYUAEN
dYOQ SWIMMINGeCOVERdYUQdYUNdKEUXdPEUXdNJEE EPOCHdPUEdWUEdFEEdVEEdLUdMIdREUXdRAEdNGUAETdNGAdSHO
dSHOQdFU REMEDYdNAdPIdLOQdKOdMENdMAdMAQdTEUdKIdMONdTENdFAQdGHOMcPHASE-F KAdUdKUdEEdREEdTAEdNYIdLA
dRIIdRIEEdMEEEEdTAAdNDAAdNJAEMdMdSUUdSHIIdSIdSEUXdKYEEdKETdNUAEdNUdNJUAEdYOQdSHUdYAdNSHAdPEUXdNTEE
dWUEdPEEdRUdNIdREUXdKENdNGKWAENdNGGAdSHOdPUAEdFOMdWAdLIdLOQdKOdMBENdRENdMAdMOdMBAAdTETdKPAdSAMBA
dVUEQ@16A40aMRO LETTER TAcNGIcYOcMIMcBAcDAcAcPHIcKHAIcHAOcDAIcCHUcKEAAEcOLcMAEMcNINcPAcOOcOcROcSHI
cTHEAcEAcWAcEcKOcLANcLAcHAIcRIcTEK@16A60bDIGIT ZEROcONEcTWOcTHREEcFOURcFIVEcSIXcSEVENcEIGHTcNINE
@16A6EbDANDAbDOUBLE DANDAaTANGSA LETTER OZcOCcOQcOXcAZcACcAQcAXcVZcVCcVQcVXcEZcECcEQcEXcIZcICcIQ
cIXcUZcUCcUQcUXcAWZcAWCcAWQcAWXcUIZcUICcUIQcUIXcFINAL NGcLONG UEXcSHORT UEZdAWXcUECcUEZcUEQcUEX
cUIUZcUIUCcUIUQcUIUXcMZcMCcMQcMXcKAcKHAcGAcNGAcSAcYAcWAcPAcNYAcPHAcBAcMAcNAcHAcLAcHTAcTAcDAcRAcNHA
cSHAcCAcTSAcGHAcHTTAcTHAcXAcFAcDHAcCHAcZA@16AC0bDIGIT ZEROcONEcTWOcTHREEcFOURcFIVEcSIXcSEVENcEIGHT
cNINE@16AD0aBASSA VAH LETTER ENNIdKAdSEdFAdMBEdYIEdGAHdDHIIdKPAHdJOdHWAHdWAdZOdGBUdDOdCEdUWUdTOdBA
dVUdYEINdPAdWADDAdAdOdOOdUdEEdEdI@16AF0cCOMBINING HIGH TONEdLOW TONEdMID TONEdLOW-MID TONE
dHIGH-LOW TONEcFULL STOP@16B00aPAHAWH HMONG VOWEL KEEBdKEEVdKIBdKIVdKAUBdKAUVdKUBdKUVdKEBdKEVdKAIB
dKAIVdKOOBdKOOVdKAWBdKAWVdKUABdKUAVdKOBdKOVdKIABdKIAVdKABdKAVdKWBdKWVdKAABdKAAVcCONSONANT VAU
dNTSAUdLAUdHAUdNLAUdRAUdNKAUdQHAUdYAUdHLAUdMAUdCHAUdNCHAUdHNAUdPLHAUdNTHAUdNAUdAUdXAUdCAU
cMARK CIM TUBeSOeKESeKHAVeSUAMeHOMeTAUMcSIGN VOS THOMeTSHAB CEEBdCIM CHEEMdVOS THIABeFEEM
dXYEEM NTXIVeRHOeTOVeFAIBdVOS SEEVdMEEJ SUABdVOS NRUAdIB YAMdXAUSdCIM TSOV ROG@16B50cDIGIT ZERO
dONEdTWOdTHREEdFOURdFIVEdSIXdSEVENdEIGHTdNINE@16B5BcNUMBER TENSdHUNDREDSdTEN THOUSANDSdMILLIONS
dHUNDRED MILLIONSdTEN BILLIONSdTRILLIONS@16B63cSIGN VOS LUBdXYOOdHLIdTHIRD-STAGE HLIdZWJ THAJdHNUB
dNQIGdXIABdNTUJdAVdTXHEEJ CEEVdMEEJ TSEEBdTAUdLOSdMUSdCIM HAIS LUS NTOG NTOGeCUAM TSHOOJeTXWVfCHWV
ePUB DAWBeNRES TOS@16B7DcCLAN SIGN TSHEEJeYEEGeLISeLAUJeXYOOJeKOOeHAWJeMUASeTHOJeTSABePHABeKHAB
eHAMeVAJeFAJeYAJeTSWBeKWMeVWJ@16E40aMEDEFAIDRIN CAPITAL LETTER MdSdVdWdATIUdZdKPdPdTdGdFdIdKdAdJdE
dBdCdUdYUdLdQdHPdNYdXdDdOEdNdRdOdAIdYbSMALL LETTER MdSdVdWdATIUdZdKPdPdTdGdFdIdKdAdJdEdBdCdUdYUdL
dQdHPdNYdXdDdOEdNdRdOdAIdYbDIGIT ZEROcONEcTWOcTHREEcFOURcFIVEcSIXcSEVENcEIGHTcNINEbNUMBER TEN
cELEVENcTWELVEcTHIRTEENcFOURTEENcFIFTEENcSIXTEENcSEVENTEENcEIGHTEENcNINETEEN
bDIGIT ONE ALTERNATE FORMcTWO ALTERNATE FORMcTHREE ALTERNATE FORMbCOMMAbFULL STOPbSYMBOL AIVA
bEXCLAMATION OH@16F00aMIAO LETTER PAcBAcYI PAcPLAcMAcMHAcARCHAIC MAcFAcVAcVFAcTAcDAcYI TTAdTAcTTA
cDDAcNAcNHAcYI NNAcARCHAIC NAcNNAcNNHAcLAcLYAcLHAcLHYAcTLHAcDLHAcTLHYAcDLHYAcKAcGAcYI KAcQAcQGA
cNGAcNGHAcARCHAIC NGAcHAcXAcGHAcGHHAcTSSAcDZZAcNYAcNYHAcTSHAcDZHAcYI TSHAdDZHAcREFORMED TSHAcSHA
cSSAcZHAcZSHAcTSAcDZAcYI TSAcSAcZAcZSAcZZAcZZSAcARCHAIC ZZAcZZYAcZZSYAcWAcAHcHHAcBRIcSYIcDZYIcTE
cTSEcRTE@16F4FbSIGN CONSONANT MODIFIER BARbLETTER NASALIZATIONbSIGN ASPIRATIONcREFORMED VOICING
dASPIRATIONbVOWEL SIGN AdAAdAHHdANdANGdOdOOdWOdWdEdENdENGdOEYdIdIAdIANdIANGdIOdIEdIIdIUdINGdUdUA
dUANdUANGdUUdUEIdUNGdYdYIdAEdAEEdERRdROUNDED ERRdERdROUNDED ERdAIdEIdAUdOUdNdNGdUOGdYUIdOGdOERdVW
dIGdEAdIONGdUI@16F8FbTONE RIGHTcTOP RIGHTcABOVEcBELOWbLETTER TONE-2cTONE-3cTONE-4cTONE-5cTONE-6
cTONE-7cTONE-8cREFORMED TONE-1dTONE-2dTONE-4dTONE-5dTONE-6dTONE-8@16FE0aTANGUT ITERATION MARK
aNUSHU ITERATION MARKaOLD CHINESE HOOK MARKcITERATION MARKaKHITAN SMALL SCRIPT FILLER
@16FF0aVIETNAMESE ALTERNATE READING MARK CAeNHAY@1AFF0aKATAKANA LETTER MINNAN TONE-2dTONE-3dTONE-4
dTONE-5@1AFF5dTONE-7dTONE-8dNASALIZED TONE-1eTONE-2eTONE-3eTONE-4eTONE-5@1AFFDeTONE-7eTONE-8
@1B000cARCHAIC EaHIRAGANA LETTER ARCHAIC YEaHENTAIGANA LETTER A-1cA-2cA-3cA-WOcI-1cI-2cI-3cI-4cU-1
cU-2cU-3cU-4cU-5cE-2cE-3cE-4cE-5cE-6cO-1cO-2cO-3cKA-1cKA-2cKA-3cKA-4cKA-5cKA-6cKA-7cKA-8cKA-9
cKA-10cKA-11cKA-KEcKI-1cKI-2cKI-3cKI-4cKI-5cKI-6cKI-7cKI-8cKU-1cKU-2cKU-3cKU-4cKU-5cKU-6cKU-7cKE-1
cKE-2cKE-3cKE-4cKE-5cKE-6cKO-1cKO-2cKO-3cKO-KIcSA-1cSA-2cSA-3cSA-4cSA-5cSA-6cSA-7cSA-8cSI-1cSI-2
cSI-3cSI-4cSI-5cSI-6cSU-1cSU-2cSU-3cSU-4cSU-5cSU-6cSU-7cSU-8cSE-1cSE-2cSE-3cSE-4cSE-5cSO-1cSO-2
cSO-3cSO-4cSO-5cSO-6cSO-7cTA-1cTA-2cTA-3cTA-4cTI-1cTI-2cTI-3cTI-4cTI-5cTI-6cTI-7cTU-1cTU-2cTU-3
cTU-4cTU-TOcTE-1cTE-2cTE-3cTE-4cTE-5cTE-6cTE-7cTE-8cTE-9cTO-1cTO-2cTO-3cTO-4cTO-5cTO-6cTO-RAcNA-1
cNA-2cNA-3cNA-4cNA-5cNA-6cNA-7cNA-8cNA-9cNI-1cNI-2cNI-3cNI-4cNI-5cNI-6cNI-7cNI-TEcNU-1cNU-2cNU-3
cNE-1cNE-2cNE-3cNE-4cNE-5cNE-6cNE-KOcNO-1cNO-2cNO-3cNO-4cNO-5cHA-1cHA-2cHA-3cHA-4cHA-5cHA-6cHA-7
cHA-8cHA-9cHA-10cHA-11cHI-1cHI-2cHI-3cHI-4cHI-5cHI-6cHI-7cHU-1cHU-2cHU-3cHE-1cHE-2cHE-3cHE-4cHE-5
cHE-6cHE-7cHO-1cHO-2cHO-3cHO-4cHO-5cHO-6cHO-7cHO-8cMA-1cMA-2cMA-3cMA-4cMA-5cMA-6cMA-7cMI-1cMI-2
cMI-3cMI-4cMI-5cMI-6cMI-7cMU-1cMU-2cMU-3cMU-4cME-1cME-2cME-MAcMO-1cMO-2cMO-3cMO-4cMO-5cMO-6cYA-1
cYA-2cYA-3cYA-4cYA-5cYA-YOcYU-1cYU-2cYU-3cYU-4cYO-1cYO-2cYO-3cYO-4cYO-5cYO-6cRA-1cRA-2cRA-3cRA-4
cRI-1cRI-2cRI-3cRI-4cRI-5cRI-6cRI-7cRU-1cRU-2cRU-3cRU-4cRU-5cRU-6cRE-1cRE-2cRE-3cRE-4cRO-1cRO-2
cRO-3cRO-4cRO-5cRO-6cWA-1cWA-2cWA-3cWA-4cWA-5cWI-1cWI-2cWI-3cWI-4cWI-5cWE-1cWE-2cWE-3cWE-4cWO-1
cWO-2cWO-3cWO-4cWO-5cWO-6cWO-7cN-MU-MO-1cN-MU-MO-2aHIRAGANA LETTER ARCHAIC WU
aKATAKANA LETTER ARCHAIC YIdYEdWU@1B132aHIRAGANA LETTER SMALL KO@1B150dWIdWEdWO
@1B155aKATAKANA LETTER SMALL KO@1B164dWIdWEdWOdN@1BC00aDUPLOYAN LETTER HcXcPcTcFcKcLcBcDcVcGcRcP N
cD ScF NcK McR ScTHcSLOAN DHcDHcKKcSLOAN JcHLcLHcRHcMcNcJcScM NcN McJ McS JcM WITH DOTcN WITH DOT
cJ WITH DOTeDOTS INSIDE AND ABOVEcS WITH DOTfBELOWcM ScN ScJ ScS ScM N ScN M ScJ M ScS J S
cJ S WITH DOTdNeScS TeRdPeRcT SdR ScWcWHcW RcS NdMcK R ScG R ScS KeRcAcSLOAN OWcOAcOcAOUcIcEcIE
cSHORT IcUIcEEcSLOAN EHcROMANIAN IcSLOAN EEcLONG IcYEcUcEUcXWcU NcLONG UcROMANIAN UcUHcSLOAN UcOOH
cOWcOUcWAcWOcWIcWEIcWOWcNASAL UdOdIdAcPERNIN ANdAMcSLOAN ENdANdONcVOCALIC M
@1BC70bAFFIX LEFT HORIZONTAL SECANTcMID HORIZONTAL SECANTcRIGHT HORIZONTAL SECANT
cLOW VERTICAL SECANTcMID VERTICAL SECANTcHIGH VERTICAL SECANTcATTACHED SECANTdLEFT-TO-RIGHT SECANT
dTANGENTdTAILdE HOOKdI HOOKdTANGENT HOOK@1BC80cHIGH ACUTEdTIGHT ACUTEdGRAVEdLONG GRAVEdDOTdCIRCLE
dLINEdWAVEdVERTICAL@1BC90cLOW ACUTEdTIGHT ACUTEdGRAVEdLONG GRAVEdDOTdCIRCLEdLINEdWAVEdVERTICAL
dARROW@1BC9CbSIGN O WITH CROSSbTHICK LETTER SELECTORbDOUBLE MARKbPUNCTUATION CHINOOK FULL STOP
aSHORTHAND FORMAT LETTER OVERLAPcCONTINUING OVERLAPcDOWN STEPcUP STEP"

end SceneRender.Script.CharacterName
